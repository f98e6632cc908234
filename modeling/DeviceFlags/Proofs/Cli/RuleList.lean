import DeviceFlags.Proofs.Cli.Eval
import DeviceFlags.Proofs.Cli.FlagText
import DeviceFlags.Proofs.Manifest
import DeviceFlags.Proofs.RuleTable.Devices

/-!
# The list of rules

A list has each rule on a line of its own, then an empty line and one that counts
the rules and their devices.  The flag of a rule never leaves its line.  A device
may hold a line feed, and then its rule takes more lines than one.
-/

namespace DeviceFlags.Cli

/-- A rule as a list shows it: behind two spaces the device, filled up with
spaces, and then the flag. -/
def ruleText (rule : Rule) : List Char :=
  [' ', ' '] ++ rule.device.toList.rightpad 25 ' ' ++ ' ' :: rule.flag.toList

/-- How many rules a table has, and for how many devices. -/
def countText (table : RuleTable) : List Char :=
  (toString table.size ++ " rule(s) for " ++
    toString (table.rules.map (·.device)).toFinset.card ++ " device(s).").toList

theorem newline_notMem_toString (number : Nat) : '\n' ∉ (toString number).toList := by
  rw [Nat.toString_eq_ofList_toDigits, String.toList_ofList]
  intro member
  have digit := Nat.isDigit_of_mem_toDigits (by decide) (by decide) member
  cases digit

theorem newline_notMem_countText (table : RuleTable) : '\n' ∉ countText table := by
  simp only [countText, String.toList_append, List.mem_append, newline_notMem_toString, false_or]
  decide

theorem getLast?_countText (table : RuleTable) : (countText table).getLast? ≠ some '\r' := by
  have last : " device(s).".toList.getLast? = some '.' := by decide
  rw [countText, String.toList_append, List.getLast?_append, last, Option.some_or]
  decide

section Rule

variable {rule : Rule}

/-- Only the device brings line feeds into the text of a rule. -/
theorem count_newline_ruleText (usable : rule.IsUsable) :
    (ruleText rule).count '\n' = rule.device.toList.count '\n' := by
  have flag := (Text.isWord_toList usable.flag_ne usable.noBlank).newline_notMem
  simp [ruleText, List.rightpad, List.count_append, List.count_replicate,
    List.count_eq_zero_of_not_mem flag]

theorem newline_notMem_ruleText (usable : rule.IsUsable) (within : '\n' ∉ rule.device.toList) :
    '\n' ∉ ruleText rule := by
  rw [← List.count_eq_zero, count_newline_ruleText usable]
  exact List.count_eq_zero_of_not_mem within

theorem getLast?_ruleText (usable : rule.IsUsable) : (ruleText rule).getLast? ≠ some '\r' := by
  have flag := Text.isWord_toList usable.flag_ne usable.noBlank
  rw [ruleText, List.getLast?_append_cons, List.getLast?_cons_of_ne_nil flag.nonempty]
  exact flag.getLast?_ne

end Rule

section Table

variable {table : RuleTable}

/-- The text of a list is that of its rules, an empty line and the count. -/
theorem tableText_eq (nonempty : table.rules ≠ []) :
    tableText table =
      (table.rules.map ruleText ++ [[], countText table]).flatMap (· ++ ['\n']) := by
  have some : table.isEmpty = false := List.isEmpty_eq_false_iff.2 nonempty
  have lines : table.rules.flatMap ruleLine =
      (table.rules.map ruleText).flatMap (· ++ ['\n']) := by
    rw [List.flatMap_map]
    apply congrArg table.rules.flatMap
    funext rule
    simp [ruleLine, ruleText, padded, List.rightpad]
  simp only [tableText, some, Bool.false_eq_true, if_false, lines, table.length_devices,
    countText, List.flatMap_append, List.flatMap_cons, List.flatMap_nil, String.toList_append,
    List.append_assoc, List.nil_append, List.singleton_append, List.append_nil]
  rfl

/-- A rule has as many lines as its text. -/
theorem lines_tableText (nonempty : table.rules ≠ []) :
    Text.lines (tableText table) =
      (table.rules.flatMap fun rule => Text.splitLines (ruleText rule)).map Text.dropReturn ++
        [[], countText table] := by
  have count : Text.splitLines (countText table) = [countText table] :=
    Text.splitLines_of_notMem (newline_notMem_countText table)
  have kept : Text.dropReturn (countText table) = countText table :=
    Text.dropReturn_eq_self (getLast?_countText table)
  rw [tableText_eq nonempty, Text.lines_flatMap_splitLines, List.flatMap_append,
    List.flatMap_map, List.map_append, List.flatMap_cons, List.flatMap_singleton, count,
    List.map_append, List.map_singleton, kept]
  rfl

theorem length_lines_tableText (nonempty : table.rules ≠ [])
    (usable : ∀ rule ∈ table.rules, rule.IsUsable) :
    (Text.lines (tableText table)).length =
      table.size + (table.rules.map fun rule => rule.device.toList.count '\n').sum + 2 := by
  have each : table.rules.map (fun rule => (Text.splitLines (ruleText rule)).length) =
      table.rules.map fun rule => rule.device.toList.count '\n' + 1 := by
    apply List.map_congr_left
    intro rule member
    rw [Text.length_splitLines, count_newline_ruleText (usable rule member)]
  rw [lines_tableText nonempty, List.length_append, List.length_map, List.length_flatMap, each,
    List.sum_map_add]
  simp [RuleTable.size, Nat.add_comm]

theorem lines_tableText_of_within (nonempty : table.rules ≠ [])
    (usable : ∀ rule ∈ table.rules, rule.IsUsable)
    (within : ∀ rule ∈ table.rules, '\n' ∉ rule.device.toList) :
    Text.lines (tableText table) = table.rules.map ruleText ++ [[], countText table] := by
  have each : ∀ line ∈ table.rules.map ruleText ++ [[], countText table],
      '\n' ∉ line ∧ line.getLast? ≠ some '\r' := by
    intro line member
    rw [List.mem_append, List.mem_map, List.mem_pair] at member
    rcases member with ⟨rule, among, same⟩ | empty | count
    · have ruleUsable := usable rule among
      rw [← same]
      exact ⟨newline_notMem_ruleText ruleUsable (within rule among),
        getLast?_ruleText ruleUsable⟩
    · rw [empty]
      exact ⟨List.not_mem_nil, nofun⟩
    · rw [count]
      exact ⟨newline_notMem_countText table, getLast?_countText table⟩
  rw [tableText_eq nonempty]
  exact Text.lines_flatMap_newline (fun line member => (each line member).1)
    fun line member => (each line member).2

theorem list_outcome_of_ok {surroundings : Surroundings} {rules : List Path}
    {found : Option Manifest.Located} (manifest : manifestFor surroundings = .ok found)
    (built : (tableFor surroundings found false rules).value = .ok table) :
    (Command.list rules).outcome surroundings = ⟨0, String.ofList (tableText table), ""⟩ := by
  have listed : (list surroundings rules).value = .ok (tableText table) := by
    rw [list, manifest]
    exact Logged.value_andThen_of_ok built
  simp only [Command.outcome, Command.run, Logged.value_recorded, listed, Report.ofResult,
    Report.outcome]

end Table

/-- A list of a table ends with an empty line and the count.  Before these each
rule has a line, and one more for each line feed in its device.  So each rule has
a line of its own exactly if no device holds a line feed. -/
theorem list_lines_iff {files : FileSystem} {project : Option Path} {includeBuiltin : Bool}
    {extra : List Path} {table : RuleTable}
    (built : (EffectiveTable.build files project includeBuiltin extra).value = .ok table)
    (nonempty : table.rules ≠ []) :
    let text := tableText table
    let ending := [[], countText table]
    Text.lines text =
        (table.rules.flatMap fun rule => Text.splitLines (ruleText rule)).map Text.dropReturn ++
          ending ∧
      (Text.lines text).length =
        table.size + (table.rules.map fun rule => rule.device.toList.count '\n').sum + 2 ∧
      (Text.lines text = table.rules.map ruleText ++ ending ↔
        ∀ rule ∈ table.rules, '\n' ∉ rule.device.toList) ∧
      ((Text.lines text).length = table.size + 2 ↔
        ∀ rule ∈ table.rules, '\n' ∉ rule.device.toList) ∧
      ∀ surroundings rules found, manifestFor surroundings = .ok found →
        (tableFor surroundings found false rules).value = .ok table →
        (Command.list rules).outcome surroundings = ⟨0, String.ofList text, ""⟩ := by
  intro text ending
  have usable := EffectiveTable.build_usable built
  have length : (Text.lines text).length = _ := length_lines_tableText nonempty usable
  have within_of_length (short : (Text.lines text).length = table.size + 2) :
      ∀ rule ∈ table.rules, '\n' ∉ rule.device.toList := by
    intro rule member
    have none : (table.rules.map fun rule => rule.device.toList.count '\n').sum = 0 := by
      omega
    rw [List.sum_eq_zero_iff_forall_eq_nat, List.forall_mem_map] at none
    exact List.count_eq_zero.1 (none rule member)
  have whole := lines_tableText_of_within nonempty usable
  have length_of_whole (lines : Text.lines text = table.rules.map ruleText ++ ending) :
      (Text.lines text).length = table.size + 2 := by
    rw [lines, List.length_append, List.length_map]
    rfl
  refine ⟨lines_tableText nonempty, length, ⟨?within, whole⟩, ⟨within_of_length, ?counted⟩,
    fun _ _ _ => list_outcome_of_ok⟩
  case within =>
    intro lines
    exact within_of_length (length_of_whole lines)
  case counted =>
    intro within
    exact length_of_whole (whole within)

/-- The built-in rules have a line each. -/
theorem list_lines_builtin :
    RuleTable.builtin.rules ≠ [] ∧
      Text.lines (tableText RuleTable.builtin) =
        RuleTable.builtin.rules.map ruleText ++ [[], countText RuleTable.builtin] := by
  have built : (EffectiveTable.build (FileSystem.ofEntries []) none true []).value =
      .ok RuleTable.builtin := rfl
  have nonempty : RuleTable.builtin.rules ≠ [] := by decide
  rcases list_lines_iff built nonempty with ⟨-, -, whole, -, -⟩
  exact ⟨nonempty, whole.2 (by decide)⟩

/-- A rule whose device holds a line feed takes two lines. -/
theorem list_lines_torn :
    let path : Path := ⟨"x.rules.toml"⟩
    let added : RuleTable := ⟨[⟨"a\nb", "-DX"⟩]⟩
    let table := RuleTable.builtin ++ added
    let files := FileSystem.ofEntries [(path, .file added.toToml.toUTF8)]
    let text :=
      "  chinatsp_s203_p_8q        -DCHINATSP_S203_P_8Q=\"chinatsp_s203_p_8q\"\n" ++
      "  chinatsp_f202_p_8q        -DCHINATSP_F202_P_8Q=\"chinatsp_f202_p_8q\"\n" ++
      "  a\nb                       -DX\n\n3 rule(s) for 3 device(s).\n"
    (EffectiveTable.build files none true [path]).value = .ok table ∧
      (Command.list [path]).outcome ⟨files, ⟨"/"⟩, none⟩ = ⟨0, text, ""⟩ ∧
      (Text.lines text.toList).length ≠ table.size + 2 := by
  intro path added table files text
  have found : files.HoldsText path added.toToml :=
    FileSystem.holdsText_ofEntries path added.toToml
  have decoded : RuleTable.ofToml added.toToml = .ok added := by
    rw [RuleTable.toToml_eq_write, RuleTable.ofToml_write]
  have gives : RuleFile.Gives files path (.ok added) := .usable found decoded (by decide)
  have built : (EffectiveTable.build files none true [path]).value = .ok table :=
    EffectiveTable.extend_value_ok_iff.2 ⟨[added], .cons gives .nil, rfl⟩
  have nobody : ∀ directory ∈ (⟨"/"⟩ : Path).upward, ¬ Manifest.IsIn files directory := by
    intro directory member
    have root : (⟨"/"⟩ : Path).upward = [⟨"/"⟩] := rfl
    rw [root, List.mem_singleton] at member
    rw [member]
    exact nofun
  have noManifest : manifestFor ⟨files, ⟨"/"⟩, none⟩ = .ok none := by
    rw [manifestFor, Manifest.find_of_none _ (Manifest.holder?_eq_none_iff.2 nobody)]
    rfl
  have tabled : (tableFor ⟨files, ⟨"/"⟩, none⟩ none false [path]).value = .ok table :=
    Logged.value_mapError_ok_iff.2 built
  have printed : String.ofList (tableText table) = text := by decide +kernel
  have lines : (Text.lines (tableText table)).length = table.size + 1 + 2 :=
    length_lines_tableText (List.cons_ne_nil _ _) (EffectiveTable.build_usable built)
  refine ⟨built, ?printed, ?torn⟩
  case printed => rw [list_outcome_of_ok noManifest tabled, printed]
  case torn =>
    rw [← printed, String.toList_ofList, lines]
    decide

end DeviceFlags.Cli
