import DeviceFlags.Proofs.RuleTable.RoundTrip
import DeviceFlags.RuleTable.Edit
import DeviceFlags.RuleTable.Issue

/-!
# Tables only grow

Whatever is done to a table, the rules that it has stay in front of those that
come later.  The flags of a device, the devices and the issues are found from
the front on, so they stay in front as well: no later rule changes what was said
of the earlier ones.
-/

namespace DeviceFlags

/-- The rules that an edit puts behind those of a table. -/
def TableEdit.additions (table : RuleTable) : TableEdit → List Rule
  | .push rule => [rule]
  | .append added => added.rules
  | .double => table.rules
  | .appendText text =>
      match RuleTable.ofToml text with
      | .ok added => added.rules
      | .error _ => []
  | .reread => []

namespace RuleTable

/-! ## One edit after another -/

theorem editAll_append (table : RuleTable) (first second : List TableEdit) :
    table.editAll (first ++ second) = (table.editAll first).editAll second :=
  List.foldl_append

theorem editAll_singleton (table : RuleTable) (edit : TableEdit) :
    table.editAll [edit] = (table.edit edit).toOption.getD table := rfl

/-- An edit adds its rules and does nothing else. -/
theorem rules_editAll_singleton (table : RuleTable) (edit : TableEdit) :
    (table.editAll [edit]).rules = table.rules ++ edit.additions table := by
  rw [editAll_singleton]
  cases edit with
  | push rule => rfl
  | append added => rfl
  | double => rfl
  | appendText text =>
      simp only [edit, TableEdit.additions]
      cases ofToml text with
      | error error => exact (List.append_nil _).symm
      | ok added => rfl
  | reread =>
      rw [edit, toToml_eq_write, ofToml_write]
      exact (List.append_nil _).symm

theorem rules_prefix_editAll (table : RuleTable) (edits : List TableEdit) :
    table.rules <+: (table.editAll edits).rules := by
  induction edits generalizing table with
  | nil => exact List.prefix_refl _
  | cons edit rest ih =>
      have grown : table.rules <+: (table.editAll [edit]).rules := by
        rw [rules_editAll_singleton]
        exact List.prefix_append _ _
      exact grown.trans (ih _)

/-! ## What is found from the front on -/

variable {first second : RuleTable}

theorem resolve_prefix (rules : first.rules <+: second.rules) (device : String) :
    first.resolve device <+: second.resolve device :=
  (rules.filter _).map _

theorem devices_prefix (rules : first.rules <+: second.rules) :
    first.devices <+: second.devices := by
  rcases rules with ⟨later, rules⟩
  rw [devices, devices, ← rules, List.map_append, List.eraseDups_append]
  exact List.prefix_append _ _

theorem issuesAfter_append (earlier pending later : List Rule) :
    issuesAfter earlier (pending ++ later) =
      issuesAfter earlier pending ++ issuesAfter (earlier ++ pending) later := by
  induction pending generalizing earlier with
  | nil => simp [issuesAfter]
  | cons rule rest ih => simp [issuesAfter, ih]

theorem issues_prefix (rules : first.rules <+: second.rules) :
    first.issues <+: second.issues := by
  rcases rules with ⟨later, rules⟩
  rw [issues, issues, ← rules, issuesAfter_append]
  exact List.prefix_append _ _

/-- Of any two states of a table that is edited, the later one continues the
earlier one, and so do its flags for each device, its devices and its issues.
Each edit adds its own rules behind all others.  A text that holds no table adds
nothing. -/
theorem editAll_append_only (table : RuleTable) (edits more : List TableEdit) :
    let earlier := table.editAll edits
    let later := table.editAll (edits ++ more)
    earlier.rules <+: later.rules ∧
      (∀ device, earlier.resolve device <+: later.resolve device) ∧
      earlier.devices <+: later.devices ∧
      earlier.issues <+: later.issues ∧
      (∀ edit, (table.editAll (edits ++ [edit])).rules =
        earlier.rules ++ edit.additions earlier) ∧
      ∀ text error, ofToml text = .error error →
        earlier.edit (.appendText text) = .error error ∧
          table.editAll (edits ++ [.appendText text]) = earlier := by
  intro earlier later
  have rules : earlier.rules <+: later.rules := by
    simp only [later, editAll_append]
    exact rules_prefix_editAll earlier more
  refine ⟨rules, resolve_prefix rules, devices_prefix rules, issues_prefix rules, ?adds, ?fails⟩
  case adds =>
    intro edit
    rw [editAll_append]
    exact rules_editAll_singleton earlier edit
  case fails =>
    intro text error failed
    have refused : earlier.edit (.appendText text) = .error error := by
      rw [edit, failed]
      rfl
    refine ⟨refused, ?_⟩
    rw [editAll_append, editAll_singleton, refused]
    rfl

/-- A text that holds no table changes nothing, after an edit that does. -/
theorem editAll_append_only_malformed :
    let table : RuleTable := ⟨[⟨"board", "-DA"⟩]⟩
    ofToml "[" = .error .malformed ∧
      (table.editAll [.double]).rules = table.rules ++ table.rules ∧
      table.editAll [.double, .appendText "["] = table.editAll [.double] := by
  intro table
  have unread : Toml.Line.read ['['] = none := rfl
  have noLines : Toml.Reader.all? Toml.Line.read ['['] = none := by
    rw [Toml.Reader.all?, unread]
    rfl
  have noEntries : Toml.parse? "[".toList = none := congrArg (Option.bind · _) noLines
  have malformed : ofToml "[" = .error .malformed := by
    rw [ofToml, Toml.readText, noEntries]
  rcases editAll_append_only table [.double] [] with ⟨-, -, -, -, -, fails⟩
  exact ⟨malformed, rfl, (fails "[" .malformed malformed).2⟩

end RuleTable

end DeviceFlags
