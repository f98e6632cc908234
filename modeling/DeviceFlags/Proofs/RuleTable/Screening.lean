import DeviceFlags.Proofs.RuleTable.Growth

/-!
# Which issues a table has

What is wrong with a rule can be said from the rule and the ones before it.  The
issues of a table are all that can be said in this way, by position and, at one
position, in the order of the checks.  One pass that remembers the rules with a
flag finds them.
-/

namespace DeviceFlags

/-- The place of a fault in the order of the checks. -/
def Fault.rank : Fault → Nat
  | .noDevice => 0
  | .noFlag _ => 1
  | .blankInFlag _ => 2
  | .noHyphen _ => 3
  | .repeated _ _ => 4

namespace Issue

/-- Whether an issue is found before another one. -/
def Precedes (first second : Issue) : Prop :=
  first.rule < second.rule ∨ first.rule = second.rule ∧ first.fault.rank < second.fault.rank

/-- The issue when some more rules come before all others. -/
def shift (count : Nat) (issue : Issue) : Issue :=
  ⟨count + issue.rule, issue.fault⟩

end Issue

/-- What is wrong with the rule at a position, how much it weighs and what is said
of it.  Of a flag that is missing nothing else is said. -/
inductive Wrong (rules : List Rule) (position : Nat) : Severity → String → Fault → Prop where
  | noDevice {rule : Rule} (present : rules[position]? = some rule) (none : rule.device = "") :
      Wrong rules position .error "device name is empty" .noDevice
  | noFlag {rule : Rule} (present : rules[position]? = some rule) (none : rule.flag = "") :
      Wrong rules position .error ("flag for device '" ++ rule.device ++ "' is empty")
        (.noFlag rule.device)
  | blankInFlag {rule : Rule} (present : rules[position]? = some rule) (given : rule.flag ≠ "")
      {c : Char} (within : c ∈ rule.flag.toList) (blank : c ∈ Text.whiteSpace) :
      Wrong rules position .error ("flag '" ++ rule.flag ++ "' contains whitespace")
        (.blankInFlag rule.flag)
  | noHyphen {rule : Rule} (present : rules[position]? = some rule) (given : rule.flag ≠ "")
      (other : rule.flag.toList.head? ≠ some '-') :
      Wrong rules position .warning ("flag '" ++ rule.flag ++ "' does not start with '-'")
        (.noHyphen rule.flag)
  | repeated {rule : Rule} (present : rules[position]? = some rule) (given : rule.flag ≠ "")
      {earlier : Nat} (before : earlier < position) (same : rules[earlier]? = some rule) :
      Wrong rules position .warning
        ("duplicate rule for device '" ++ rule.device ++ "' with flag '" ++ rule.flag ++ "'")
        (.repeated rule.device rule.flag)

section Wrong

variable {rules : List Rule} {position : Nat} {severity : Severity} {message : String}
  {fault : Fault}

theorem Wrong.exists_rule (wrong : Wrong rules position severity message fault) :
    ∃ rule, rules[position]? = some rule := by
  cases wrong <;> exact ⟨_, by assumption⟩

/-- What is wrong at a position stays so behind other rules. -/
theorem Wrong.shift (front : List Rule) (wrong : Wrong rules position severity message fault) :
    Wrong (front ++ rules) (front.length + position) severity message fault := by
  have moved (index : Nat) : (front ++ rules)[front.length + index]? = rules[index]? := by
    rw [List.getElem?_append_right (Nat.le_add_right _ _), Nat.add_sub_cancel_left]
  cases wrong with
  | noDevice present none => exact .noDevice ((moved _).trans present) none
  | noFlag present none => exact .noFlag ((moved _).trans present) none
  | blankInFlag present given within blank =>
      exact .blankInFlag ((moved _).trans present) given within blank
  | noHyphen present given other => exact .noHyphen ((moved _).trans present) given other
  | repeated present given before same =>
      exact .repeated ((moved _).trans present) given (Nat.add_lt_add_left before _)
        ((moved _).trans same)

end Wrong

namespace Rule

theorem faults_sublist (earlier : List Rule) (rule : Rule) :
    (rule.faults earlier).Sublist
      [.noDevice, .noFlag rule.device, .blankInFlag rule.flag, .noHyphen rule.flag,
        .repeated rule.device rule.flag] := by
  have optional (condition : Prop) [Decidable condition] (fault : Fault) :
      (if condition then [fault] else []).Sublist [fault] := by
    split
    · exact .refl _
    · exact List.nil_sublist _
  have hyphen : (if rule.flag.toList.head? = some '-' then [] else
      [Fault.noHyphen rule.flag]).Sublist [.noHyphen rule.flag] := by
    split
    · exact List.nil_sublist _
    · exact .refl _
  rw [faults]
  apply (optional (rule.device = "") .noDevice).append
  split
  · exact List.singleton_sublist.2 List.mem_cons_self
  · apply List.Sublist.cons
    exact ((optional _ _).append hyphen).append (optional _ _)

/-- The faults of a rule come in the order of the checks, so each at most once. -/
theorem faults_ranked (earlier : List Rule) (rule : Rule) :
    (rule.faults earlier).Pairwise (·.rank < ·.rank) := by
  apply List.Pairwise.sublist (faults_sublist earlier rule)
  simp [Fault.rank]

/-- Only for a rule with a flag it matters whether an earlier one is the same. -/
theorem faults_congr {rule : Rule} {earlier seen : List Rule}
    (same : rule.flag ≠ "" → (rule ∈ seen ↔ rule ∈ earlier)) :
    rule.faults seen = rule.faults earlier := by
  by_cases none : rule.flag = ""
  · simp only [faults, if_pos none]
  · simp only [faults, if_neg none, same none]

/-- The errors of a rule have nothing to do with the rules before it. -/
theorem error_faults_eq (earlier earlier' : List Rule) (rule : Rule) :
    (rule.faults earlier).filter (·.severity == .error) =
      (rule.faults earlier').filter (·.severity == .error) := by
  have without (before : List Rule) :
      (if rule ∈ before then [Fault.repeated rule.device rule.flag] else []).filter
        (·.severity == .error) = [] := by
    split <;> rfl
  by_cases none : rule.flag = ""
  · simp only [faults, if_pos none]
  · simp only [faults, if_neg none, List.filter_append, without]

theorem mem_faults {earlier : List Rule} {rule : Rule} {fault : Fault} :
    fault ∈ rule.faults earlier ↔
      rule.device = "" ∧ fault = .noDevice ∨
      rule.flag = "" ∧ fault = .noFlag rule.device ∨
      rule.flag ≠ "" ∧
        (Text.hasBlank rule.flag = true ∧ fault = .blankInFlag rule.flag ∨
          rule.flag.toList.head? ≠ some '-' ∧ fault = .noHyphen rule.flag ∨
          rule ∈ earlier ∧ fault = .repeated rule.device rule.flag) := by
  by_cases none : rule.flag = ""
  · simp [faults, none]
  · simp [faults, none]

/-- What is wrong with the rule at a position is what its faults against the
rules before it say. -/
theorem mem_faults_take_iff {rules : List Rule} {rule : Rule} {position : Nat}
    (present : rules[position]? = some rule) {severity : Severity} {message : String}
    {fault : Fault} :
    fault ∈ rule.faults (rules.take position) ∧ fault.severity = severity ∧
        fault.message = message ↔
      Wrong rules position severity message fault := by
  constructor
  · intro found
    rcases found with ⟨member, rfl, rfl⟩
    rcases mem_faults.1 member with ⟨none, rfl⟩ | ⟨none, rfl⟩ | ⟨given, flagged⟩
    · exact .noDevice present none
    · exact .noFlag present none
    · rcases flagged with ⟨blank, rfl⟩ | ⟨other, rfl⟩ | ⟨among, rfl⟩
      · rcases Text.hasBlank_iff.1 blank with ⟨c, within, blank⟩
        exact .blankInFlag present given within blank
      · exact .noHyphen present given other
      · rcases List.mem_take_iff_getElem.1 among with ⟨earlier, bound, same⟩
        rw [Nat.lt_min] at bound
        exact .repeated present given bound.1 (List.getElem?_eq_some_iff.2 ⟨bound.2, same⟩)
  · have only {other : Rule} (there : rules[position]? = some other) : other = rule :=
      Option.some.inj (there.symm.trans present)
    intro wrong
    cases wrong with
    | noDevice there none =>
        cases only there
        exact ⟨mem_faults.2 (.inl ⟨none, rfl⟩), rfl, rfl⟩
    | noFlag there none =>
        cases only there
        exact ⟨mem_faults.2 (.inr (.inl ⟨none, rfl⟩)), rfl, rfl⟩
    | blankInFlag there given within blank =>
        cases only there
        have flagged : Text.hasBlank rule.flag = true := Text.hasBlank_iff.2 ⟨_, within, blank⟩
        exact ⟨mem_faults.2 (.inr (.inr ⟨given, .inl ⟨flagged, rfl⟩⟩)), rfl, rfl⟩
    | noHyphen there given other =>
        cases only there
        exact ⟨mem_faults.2 (.inr (.inr ⟨given, .inr (.inl ⟨other, rfl⟩)⟩)), rfl, rfl⟩
    | repeated there given before same =>
        cases only there
        rcases List.getElem?_eq_some_iff.1 same with ⟨bound, same⟩
        have among : rule ∈ rules.take position :=
          List.mem_take_iff_getElem.2 ⟨_, Nat.lt_min.2 ⟨before, bound⟩, same⟩
        exact ⟨mem_faults.2 (.inr (.inr ⟨given, .inr (.inr ⟨among, rfl⟩)⟩)), rfl, rfl⟩

end Rule

namespace RuleTable

theorem mem_issuesAfter_iff {earlier pending : List Rule} {issue : Issue} :
    issue ∈ issuesAfter earlier pending ↔
      ∃ index rule, pending[index]? = some rule ∧ issue.rule = earlier.length + index ∧
        issue.fault ∈ rule.faults (earlier ++ pending.take index) := by
  induction pending generalizing earlier with
  | nil => simp [issuesAfter]
  | cons first rest ih =>
      rw [issuesAfter, List.mem_append, List.mem_map, ih]
      constructor
      · intro found
        rcases found with ⟨fault, found, rfl⟩ | ⟨index, rule, present, position, found⟩
        · exact ⟨0, first, rfl, rfl, by rwa [List.take_zero, List.append_nil]⟩
        · refine ⟨index + 1, rule, present, ?_, ?_⟩
          · rw [position, List.length_append, List.length_singleton]
            omega
          · rwa [List.take_succ_cons, List.append_cons]
      · intro found
        rcases found with ⟨index, rule, present, position, found⟩
        cases index with
        | zero =>
            left
            cases present
            rw [List.take_zero, List.append_nil] at found
            exact ⟨issue.fault, found, congrArg (Issue.mk · issue.fault) position.symm⟩
        | succ index =>
            right
            refine ⟨index, rule, present, ?_, ?_⟩
            · rw [position, List.length_append, List.length_singleton]
              omega
            · rwa [List.take_succ_cons, List.append_cons] at found

/-- The issues of a table are what is wrong with its rules. -/
theorem mem_issues_iff {table : RuleTable} {issue : Issue} {severity : Severity}
    {message : String} :
    issue ∈ table.issues ∧ issue.severity = severity ∧ issue.fault.message = message ↔
      Wrong table.rules issue.rule severity message issue.fault := by
  rw [issues, mem_issuesAfter_iff]
  constructor
  · intro found
    rcases found with ⟨⟨index, rule, present, position, found⟩, said⟩
    rw [List.length_nil, Nat.zero_add] at position
    subst position
    exact (Rule.mem_faults_take_iff present).1 ⟨found, said⟩
  · intro wrong
    rcases wrong.exists_rule with ⟨rule, present⟩
    rcases (Rule.mem_faults_take_iff present).2 wrong with ⟨found, said⟩
    exact ⟨⟨issue.rule, rule, present, (Nat.zero_add _).symm, found⟩, said⟩

theorem issuesAfter_ordered (earlier pending : List Rule) :
    (issuesAfter earlier pending).Pairwise Issue.Precedes := by
  induction pending generalizing earlier with
  | nil => exact .nil
  | cons rule rest ih =>
      rw [issuesAfter, List.pairwise_append]
      refine ⟨?here, ih _, ?later⟩
      case here =>
        rw [List.pairwise_map]
        exact (rule.faults_ranked earlier).imp fun ranked => .inr ⟨rfl, ranked⟩
      case later =>
        intro first among second after
        rcases List.mem_map.1 among with ⟨fault, -, rfl⟩
        rcases mem_issuesAfter_iff.1 after with ⟨index, -, -, position, -⟩
        have before : earlier.length < second.rule := by
          rw [position, List.length_append, List.length_singleton]
          omega
        exact .inl before

/-! ## By severity -/

/-- The issues of a table that have a severity. -/
def issuesOf (table : RuleTable) (severity : Severity) : List Issue :=
  table.issues.filter (·.severity == severity)

theorem mem_issuesOf {table : RuleTable} {severity : Severity} {issue : Issue} :
    issue ∈ table.issuesOf severity ↔ issue ∈ table.issues ∧ issue.severity = severity := by
  simp [issuesOf]

theorem errors_eq (table : RuleTable) : table.errors = table.issuesOf .error := rfl

theorem warnings_eq (table : RuleTable) : table.warnings = table.issuesOf .warning := by
  apply List.filter_congr
  intro issue _
  cases severity : issue.severity <;> simp [Issue.isError, severity]

/-! ## One pass over the rules -/

/-- The issues of the rules `pending` from a position on, when `seen` are the
rules with a flag that came before.  A rule without a flag is not remembered. -/
def scan (seen : List Rule) (position : Nat) : (pending : List Rule) → List Issue
  | [] => []
  | rule :: rest =>
      (rule.faults seen).map (Issue.mk position) ++
        scan (if rule.flag = "" then seen else seen.insert rule) (position + 1) rest

/-- The outcome of a check: a table without issues passes. -/
def check (table : RuleTable) : Except (List Issue) Unit :=
  match scan [] 0 table.rules with
  | [] => .ok ()
  | found => .error found

/-- A pass knows all that matters of the rules before it, if it remembers those
with a flag. -/
theorem scan_eq_issuesAfter {seen earlier : List Rule}
    (remembered : ∀ rule : Rule, rule.flag ≠ "" → (rule ∈ seen ↔ rule ∈ earlier))
    (pending : List Rule) :
    scan seen earlier.length pending = issuesAfter earlier pending := by
  induction pending generalizing seen earlier with
  | nil => rfl
  | cons rule rest ih =>
      have position : earlier.length + 1 = (earlier ++ [rule]).length := by simp
      rw [scan, issuesAfter, Rule.faults_congr (remembered rule), position, ih]
      intro other given
      by_cases none : rule.flag = ""
      · have differs : other ≠ rule := fun same => given (same ▸ none)
        simp [none, differs, remembered other given]
      · simp [none, remembered other given, or_comm]

theorem scan_eq_issues (table : RuleTable) : scan [] 0 table.rules = table.issues :=
  @scan_eq_issuesAfter [] [] (fun _ _ => Iff.rfl) table.rules

theorem check_eq_ok_iff (table : RuleTable) : table.check = .ok () ↔ table.issues = [] := by
  rw [check, scan_eq_issues]
  cases table.issues with
  | nil => simp
  | cons issue rest => simp

theorem check_eq_error_iff {table : RuleTable} {found : List Issue} :
    table.check = .error found ↔ found = table.issues ∧ found ≠ [] := by
  rw [check, scan_eq_issues]
  cases table.issues with
  | nil => simp
  | cons issue rest =>
      constructor
      · intro failed
        cases failed
        exact ⟨rfl, List.cons_ne_nil issue rest⟩
      · intro whole
        rw [whole.1]

/-! ## A table behind another one -/

theorem error_issuesAfter_append (front earlier pending : List Rule) :
    (issuesAfter (front ++ earlier) pending).filter (·.isError) =
      ((issuesAfter earlier pending).filter (·.isError)).map (Issue.shift front.length) := by
  induction pending generalizing earlier with
  | nil => rfl
  | cons rule rest ih =>
      have here : ((rule.faults (front ++ earlier)).map
            (Issue.mk (front ++ earlier).length)).filter (·.isError) =
          (((rule.faults earlier).map (Issue.mk earlier.length)).filter (·.isError)).map
            (Issue.shift front.length) := by
        have severe (position : Nat) :
            (fun issue : Issue => issue.isError) ∘ Issue.mk position =
              fun fault => fault.severity == .error := rfl
        rw [List.filter_map, List.filter_map, severe, severe,
          Rule.error_faults_eq (front ++ earlier) earlier, List.map_map, List.length_append]
        rfl
      rw [issuesAfter, issuesAfter, List.filter_append, List.filter_append, List.map_append, here,
        List.append_assoc front, ih]

theorem errors_append (first second : RuleTable) :
    (first ++ second).errors =
      first.errors ++ second.errors.map (Issue.shift first.size) := by
  have shifted := error_issuesAfter_append first.rules [] second.rules
  rw [List.append_nil] at shifted
  rw [errors, issues, rules_append, issuesAfter_append, List.filter_append, List.nil_append,
    shifted]
  rfl

theorem mem_warnings_iff {table : RuleTable} {issue : Issue} :
    issue ∈ table.warnings ↔ issue ∈ table.issues ∧ issue.severity = .warning := by
  rw [warnings_eq, mem_issuesOf]

theorem shift_mem_warnings {first second : RuleTable} {issue : Issue}
    (member : issue ∈ second.warnings) :
    issue.shift first.size ∈ (first ++ second).warnings := by
  rw [mem_warnings_iff] at member ⊢
  have wrong := mem_issues_iff.1 ⟨member.1, member.2, rfl⟩
  have behind : Wrong (first ++ second).rules (issue.shift first.size).rule .warning
      issue.fault.message (issue.shift first.size).fault := wrong.shift first.rules
  rcases mem_issues_iff.2 behind with ⟨among, warning, -⟩
  exact ⟨among, warning⟩

/-- The issues of a table are what is wrong with its rules, each said once and in
its own words, in the order of the rules and, for one rule, of the checks.  One pass
finds them, and a table passes if there are none.  Behind another table the rules of
a table keep their errors, and all its warnings remain. -/
theorem issues_exact (table : RuleTable) :
    (∀ issue severity message,
        issue ∈ table.issues ∧ issue.severity = severity ∧ issue.fault.message = message ↔
          Wrong table.rules issue.rule severity message issue.fault) ∧
      table.issues.Pairwise Issue.Precedes ∧
      (table.check = .ok () ↔ table.issues = []) ∧
      (∀ found, table.check = .error found ↔ found = table.issues ∧ found ≠ []) ∧
      ∀ later : RuleTable,
        (table ++ later).errors = table.errors ++ later.errors.map (Issue.shift table.size) ∧
          ∀ issue ∈ later.warnings, issue.shift table.size ∈ (table ++ later).warnings := by
  refine ⟨fun _ _ _ => mem_issues_iff, issuesAfter_ordered [] table.rules, check_eq_ok_iff table,
    fun _ => check_eq_error_iff, ?_⟩
  intro later
  exact ⟨errors_append table later, fun _ member => shift_mem_warnings member⟩

/-- Behind another table a rule that was the first of its kind becomes a
repetition, and a repetition remains one. -/
theorem issues_exact_behind :
    let table : RuleTable := ⟨[⟨"board", "-DA"⟩]⟩
    let later : RuleTable := ⟨[⟨"board", "-DA"⟩, ⟨"", "D A"⟩, ⟨"board", "-DA"⟩]⟩
    ⟨2, .repeated "board" "-DA"⟩ ∈ later.warnings ∧
      ⟨3, .repeated "board" "-DA"⟩ ∈ (table ++ later).warnings ∧
      Wrong (table ++ later).rules 1 .warning
        "duplicate rule for device 'board' with flag '-DA'" (.repeated "board" "-DA") ∧
      (table ++ later).errors = [⟨2, .noDevice⟩, ⟨2, .blankInFlag "D A"⟩] := by
  intro table later
  rcases issues_exact table with ⟨-, -, -, -, behind⟩
  rcases issues_exact (table ++ later) with ⟨said, -⟩
  have warned : (⟨2, .repeated "board" "-DA"⟩ : Issue) ∈ later.warnings := by decide
  exact ⟨warned, (behind later).2 _ warned,
    (said ⟨1, .repeated "board" "-DA"⟩ .warning _).1 (by decide), (behind later).1⟩

end RuleTable

end DeviceFlags
