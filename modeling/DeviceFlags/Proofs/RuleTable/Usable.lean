import DeviceFlags.RuleTable.Issue

/-!
# Usable rules

Whether a rule is in error depends on the rule alone, so a table has no error
exactly if each of its rules is usable, wherever the rules come from.
-/

namespace DeviceFlags

theorem Text.newline_notMem_of_noBlank {text : String} (noBlank : hasBlank text = false) :
    '\n' ∉ text.toList := by
  intro member
  have blank : hasBlank text = true := List.any_eq_true.2 ⟨'\n', member, rfl⟩
  rw [noBlank] at blank
  cases blank

/-- A rule without errors: it names a device, and its flag is one argument. -/
structure Rule.IsUsable (rule : Rule) : Prop where
  device_ne : rule.device ≠ ""
  flag_ne : rule.flag ≠ ""
  noBlank : Text.hasBlank rule.flag = false

namespace Rule

/-- The rules before a rule add warnings at most. -/
theorem no_error_faults_iff (earlier : List Rule) (rule : Rule) :
    (∀ fault ∈ rule.faults earlier, fault.severity ≠ .error) ↔ rule.IsUsable := by
  constructor
  · intro clean
    have device_ne : rule.device ≠ "" := by
      intro empty
      exact clean .noDevice (by simp [faults, empty]) rfl
    have flag_ne : rule.flag ≠ "" := by
      intro empty
      exact clean (.noFlag rule.device) (by simp [faults, empty]) rfl
    refine ⟨device_ne, flag_ne, ?_⟩
    rw [Bool.eq_false_iff]
    intro blank
    exact clean (.blankInFlag rule.flag) (by simp [faults, flag_ne, blank]) rfl
  · intro usable fault member
    simp only [faults, if_neg usable.device_ne, if_neg usable.flag_ne, usable.noBlank,
      List.nil_append, Bool.false_eq_true, if_false, List.mem_append] at member
    cases member with
    | inl noHyphen =>
        split at noHyphen <;> simp_all [Fault.severity]
    | inr repeated =>
        split at repeated <;> simp_all [Fault.severity]

end Rule

namespace RuleTable

theorem mem_issuesAfter {earlier pending : List Rule} {issue : Issue}
    (member : issue ∈ issuesAfter earlier pending) :
    ∃ before, ∃ rule ∈ pending, issue.fault ∈ rule.faults before := by
  induction pending generalizing earlier with
  | nil => simp [issuesAfter] at member
  | cons rule rest ih =>
      rw [issuesAfter, List.mem_append, List.mem_map] at member
      rcases member with ⟨fault, found, rfl⟩ | later
      · exact ⟨earlier, rule, List.mem_cons_self, found⟩
      · rcases ih later with ⟨before, other, among, found⟩
        exact ⟨before, other, List.mem_cons_of_mem _ among, found⟩

theorem exists_issue_of_mem (earlier : List Rule) {pending : List Rule} {rule : Rule}
    (member : rule ∈ pending) :
    ∃ before, ∀ fault ∈ rule.faults before,
      ∃ issue ∈ issuesAfter earlier pending, issue.fault = fault := by
  induction pending generalizing earlier with
  | nil => simp at member
  | cons first rest ih =>
      rw [List.mem_cons] at member
      rcases member with rfl | later
      · refine ⟨earlier, fun fault found => ⟨⟨earlier.length, fault⟩, ?_, rfl⟩⟩
        exact List.mem_append_left _ (List.mem_map_of_mem found)
      · rcases ih (earlier ++ [first]) later with ⟨before, issues⟩
        refine ⟨before, fun fault found => ?_⟩
        rcases issues fault found with ⟨issue, among, equal⟩
        exact ⟨issue, List.mem_append_right _ among, equal⟩

/-- A table has no error exactly if all its rules are usable. -/
theorem no_error_issues_iff (table : RuleTable) :
    (∀ issue ∈ table.issues, issue.severity ≠ .error) ↔ ∀ rule ∈ table.rules, rule.IsUsable := by
  constructor
  · intro clean rule member
    rcases exists_issue_of_mem [] member with ⟨before, issues⟩
    rw [← Rule.no_error_faults_iff before]
    intro fault found
    rcases issues fault found with ⟨issue, among, rfl⟩
    exact clean issue among
  · intro usable issue member
    rcases mem_issuesAfter member with ⟨before, rule, among, found⟩
    exact (Rule.no_error_faults_iff before rule).2 (usable rule among) issue.fault found

theorem errors_eq_nil_iff (table : RuleTable) :
    table.errors = [] ↔ ∀ issue ∈ table.issues, issue.severity ≠ .error := by
  simp [errors, Issue.isError]

theorem resolve_empty_device {table : RuleTable} (usable : ∀ rule ∈ table.rules, rule.IsUsable) :
    table.resolve "" = [] := by
  rw [List.eq_nil_iff_forall_not_mem]
  intro flag member
  exact (usable _ (mem_resolve.1 member)).device_ne rfl

theorem newline_notMem_resolve {table : RuleTable}
    (usable : ∀ rule ∈ table.rules, rule.IsUsable) (device : String) :
    ∀ flag ∈ table.resolve device, '\n' ∉ flag.toList := by
  intro flag member
  exact Text.newline_notMem_of_noBlank (usable _ (mem_resolve.1 member)).noBlank

theorem builtin_usable : ∀ rule ∈ builtin.rules, rule.IsUsable := by
  intro rule member
  rw [builtin, List.mem_cons, List.mem_singleton] at member
  rcases member with rfl | rfl
  · exact ⟨by decide, by decide, rfl⟩
  · exact ⟨by decide, by decide, rfl⟩

end RuleTable

end DeviceFlags
