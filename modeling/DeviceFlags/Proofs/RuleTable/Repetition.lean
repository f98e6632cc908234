import DeviceFlags.Files.FileSystem
import DeviceFlags.Proofs.RuleTable.Screening
import Mathlib.Algebra.BigOperators.Ring.Finset

/-!
# How often rules repeat

A repeated rule gives a flag to its device once more.  So the repetitions that
are warned about are counted by what the devices get: for each device, its flags
without those that are new.  Empty flags take no part, since nothing more is
said of a rule without a flag.
-/

namespace DeviceFlags

/-- The device that a repetition is about. -/
def Fault.repeatedFor? : Fault → Option String
  | .repeated device _ => some device
  | _ => none

namespace Issue

/-- The device that a repeated rule is about. -/
def repeatedFor? (issue : Issue) : Option String :=
  issue.fault.repeatedFor?

/-- Whether the issue is that a rule repeats an earlier one. -/
def isRepetition (issue : Issue) : Bool :=
  issue.repeatedFor?.isSome

theorem isError_of_isRepetition {issue : Issue} (repeats : issue.isRepetition = true) :
    issue.isError = false := by
  rcases issue with ⟨position, fault⟩
  cases fault with
  | repeated device flag => rfl
  | _ => cases repeats

end Issue

/-- The flags that are not empty. -/
def nonemptyFlags (flags : List String) : List String :=
  flags.filter (· ≠ "")

/-- How many nonempty flags there are beyond the distinct ones. -/
def surplus (flags : List String) : Nat :=
  (nonemptyFlags flags).length - (nonemptyFlags flags).toFinset.card

@[simp] theorem nonemptyFlags_append (first second : List String) :
    nonemptyFlags (first ++ second) = nonemptyFlags first ++ nonemptyFlags second :=
  List.filter_append first second

theorem mem_nonemptyFlags {flags : List String} {flag : String} (present : flag ≠ "") :
    flag ∈ nonemptyFlags flags ↔ flag ∈ flags := by
  simp [nonemptyFlags, present]

theorem nonemptyFlags_eq_self {flags : List String} (present : ∀ flag ∈ flags, flag ≠ "") :
    nonemptyFlags flags = flags :=
  List.filter_eq_self.2 fun flag member => decide_eq_true (present flag member)

theorem card_toFinset_append_singleton (flags : List String) (flag : String) :
    (flags ++ [flag]).toFinset.card = flags.toFinset.card + if flag ∈ flags then 0 else 1 := by
  have union : (flags ++ [flag]).toFinset = insert flag flags.toFinset := by
    rw [List.toFinset_append, Finset.union_comm]
    rfl
  rw [union]
  split
  case isTrue among => exact Finset.card_insert_of_mem (List.mem_toFinset.2 among)
  case isFalse fresh =>
    apply Finset.card_insert_of_notMem
    rwa [List.mem_toFinset]

/-- There are no more flags than distinct ones exactly if none is repeated. -/
theorem surplus_eq_zero_iff {flags : List String} (present : ∀ flag ∈ flags, flag ≠ "") :
    surplus flags = 0 ↔ flags.Nodup := by
  have atMost : flags.toFinset.card ≤ flags.length := flags.toFinset_card_le
  have nodup : flags.toFinset.card = flags.length ↔ flags.Nodup :=
    Multiset.toFinset_card_eq_card_iff_nodup
  rw [surplus, nonemptyFlags_eq_self present, ← nodup]
  omega

/-- A rule with a flag is reported if the same rule came before it. -/
theorem Rule.filterMap_faults (earlier : List Rule) (rule : Rule) :
    (rule.faults earlier).filterMap Fault.repeatedFor? =
      if rule.flag ≠ "" ∧ rule ∈ earlier then [rule.device] else [] := by
  have unsaid (condition : Prop) [Decidable condition] (fault : Fault)
      (other : fault.repeatedFor? = none) :
      (if condition then [fault] else []).filterMap Fault.repeatedFor? = [] := by
    split
    · rw [List.filterMap_cons_none other, List.filterMap_nil]
    · rfl
  rw [faults, List.filterMap_append, unsaid _ _ rfl, List.nil_append]
  split
  case isTrue none => simp [none, Fault.repeatedFor?]
  case isFalse none =>
    have hyphen : (if rule.flag.toList.head? = some '-' then [] else
        [Fault.noHyphen rule.flag]).filterMap Fault.repeatedFor? = [] := by
      split <;> rfl
    rw [List.filterMap_append, List.filterMap_append, unsaid _ _ rfl, hyphen, List.nil_append,
      List.nil_append]
    by_cases among : rule ∈ earlier <;> simp [among, none, Fault.repeatedFor?]

namespace RuleTable

/-- The devices of the rules that repeat an earlier one. -/
def repeatedDevices (rules : List Rule) : List String :=
  (issuesAfter [] rules).filterMap Issue.repeatedFor?

theorem repeatedDevices_append_singleton (rules : List Rule) (rule : Rule) :
    repeatedDevices (rules ++ [rule]) =
      repeatedDevices rules ++ if rule.flag ≠ "" ∧ rule ∈ rules then [rule.device] else [] := by
  have said : Issue.repeatedFor? ∘ Issue.mk rules.length = Fault.repeatedFor? := rfl
  rw [repeatedDevices, issuesAfter_append, List.filterMap_append, List.nil_append, issuesAfter,
    issuesAfter, List.append_nil, List.filterMap_map, said, Rule.filterMap_faults]
  rfl

theorem mem_devices_of_mem_repeatedDevices {rules : List Rule} {device : String}
    (member : device ∈ repeatedDevices rules) : device ∈ devices ⟨rules⟩ := by
  induction rules using List.reverseRecOn with
  | nil => cases member
  | append_singleton rules rule ih =>
      rw [devices, List.mem_eraseDups, List.mem_map] at ih ⊢
      rw [repeatedDevices_append_singleton, List.mem_append] at member
      rcases member with before | last
      · rcases ih before with ⟨other, among, named⟩
        exact ⟨other, List.mem_append_left _ among, named⟩
      · split at last
        · exact ⟨rule, List.mem_append_right _ (List.mem_singleton_self rule),
            (List.mem_singleton.1 last).symm⟩
        · cases last

theorem count_repeatedDevices_append_singleton (rules : List Rule) (rule : Rule)
    (device : String) :
    (repeatedDevices (rules ++ [rule])).count device =
      (repeatedDevices rules).count device +
        if (rule.device = device ∧ rule.flag ≠ "") ∧ rule ∈ rules then 1 else 0 := by
  rw [repeatedDevices_append_singleton, List.count_append]
  by_cases said : rule.flag ≠ "" ∧ rule ∈ rules
  · by_cases named : rule.device = device <;> simp [said, named]
  · have silent : ¬ ((rule.device = device ∧ rule.flag ≠ "") ∧ rule ∈ rules) :=
      fun whole => said ⟨whole.1.2, whole.2⟩
    rw [if_neg said, if_neg silent, List.count_nil]

theorem nonemptyFlags_resolve_append_singleton (rules : List Rule) (rule : Rule)
    (device : String) :
    nonemptyFlags (resolve ⟨rules ++ [rule]⟩ device) =
      nonemptyFlags (resolve ⟨rules⟩ device) ++
        if rule.device = device ∧ rule.flag ≠ "" then [rule.flag] else [] := by
  have split : resolve ⟨rules ++ [rule]⟩ device =
      resolve ⟨rules⟩ device ++ resolve ⟨[rule]⟩ device :=
    resolve_append ⟨rules⟩ ⟨[rule]⟩ device
  rw [split, nonemptyFlags_append]
  by_cases named : rule.device = device <;> by_cases none : rule.flag = "" <;>
    simp [resolve, Rule.appliesTo, nonemptyFlags, named, none]

/-- A device gets its flags from rules that are new and from rules that repeat
earlier ones.  The rules are counted in their order: each one adds to the flags
and, depending on what came before it, to one of the two parts. -/
theorem count_repeatedDevices_add_card (rules : List Rule) (device : String) :
    (repeatedDevices rules).count device +
        (nonemptyFlags (resolve ⟨rules⟩ device)).toFinset.card =
      (nonemptyFlags (resolve ⟨rules⟩ device)).length := by
  induction rules using List.reverseRecOn with
  | nil => rfl
  | append_singleton rules rule ih =>
      rw [count_repeatedDevices_append_singleton, nonemptyFlags_resolve_append_singleton]
      by_cases adds : rule.device = device ∧ rule.flag ≠ ""
      · have known : rule.flag ∈ nonemptyFlags (resolve ⟨rules⟩ device) ↔ rule ∈ rules := by
          rcases adds with ⟨rfl, present⟩
          rw [mem_nonemptyFlags present, mem_resolve]
        rw [if_pos adds, card_toFinset_append_singleton, List.length_append,
          List.length_singleton]
        by_cases among : rule ∈ rules
        · rw [if_pos ⟨adds, among⟩, if_pos (known.2 among)]
          omega
        · rw [if_neg fun whole => among whole.2, if_neg fun whole => among (known.1 whole)]
          omega
      · rw [if_neg adds, if_neg fun whole => adds whole.1, List.append_nil, Nat.add_zero, ih]

theorem count_repeatedDevices (rules : List Rule) (device : String) :
    (repeatedDevices rules).count device = surplus (resolve ⟨rules⟩ device) := by
  have total := count_repeatedDevices_add_card rules device
  rw [surplus]
  omega

theorem nodup_devices (table : RuleTable) : table.devices.Nodup :=
  nodup_eraseDups _

/-- Counting by the devices of the table counts all, if only these are named. -/
theorem sum_count_devices {table : RuleTable} {named : List String}
    (known : ∀ device ∈ named, device ∈ table.devices) :
    (table.devices.map fun device => named.count device).sum = named.length := by
  have counted : ∑ device ∈ table.devices.toFinset, Multiset.count device named =
      Multiset.card (named : Multiset String) := by
    apply Multiset.sum_count_eq_card
    intro device member
    exact List.mem_toFinset.2 (known device (Multiset.mem_coe.1 member))
  simp only [Multiset.coe_card, Multiset.coe_count] at counted
  rw [← List.sum_toFinset _ table.nodup_devices, counted]

/-- Each repetition belongs to one device of the table. -/
theorem length_repeatedDevices (table : RuleTable) :
    (repeatedDevices table.rules).length =
      (table.devices.map fun device => surplus (table.resolve device)).sum := by
  have each : (fun device => surplus (table.resolve device)) =
      fun device => (repeatedDevices table.rules).count device :=
    funext fun device => (count_repeatedDevices table.rules device).symm
  rw [each, sum_count_devices fun _ => mem_devices_of_mem_repeatedDevices]

theorem filterMap_warnings (table : RuleTable) :
    table.warnings.filterMap Issue.repeatedFor? = repeatedDevices table.rules := by
  rw [warnings, List.filterMap_filter]
  apply List.filterMap_congr
  intro issue _
  split
  case isTrue => rfl
  case isFalse severe =>
    rw [Bool.not_eq_true', Bool.not_eq_false] at severe
    cases named : issue.repeatedFor? with
    | none => rfl
    | some device =>
        have repeats : issue.isRepetition = true := by rw [Issue.isRepetition, named]; rfl
        rw [Issue.isError_of_isRepetition repeats] at severe
        cases severe

theorem countP_isRepetition (table : RuleTable) :
    table.warnings.countP (·.isRepetition) = (repeatedDevices table.rules).length := by
  rw [← filterMap_warnings, List.length_filterMap_eq_countP]
  rfl

theorem countP_repeatedFor (table : RuleTable) (device : String) :
    table.warnings.countP (·.repeatedFor? == some device) = surplus (table.resolve device) := by
  rw [← List.count_filterMap, filterMap_warnings, count_repeatedDevices]

/-- The warnings about repeated rules are counted by the flags: each device of
the table has one for each of its flags that it already has, and no other device
has any.  If no flag is empty, there is no such warning exactly if no device gets
a flag twice. -/
theorem repetitions_counted (table : RuleTable) :
    table.warnings.countP (·.isRepetition) =
        (table.devices.map fun device => surplus (table.resolve device)).sum ∧
      (∀ device, table.warnings.countP (·.repeatedFor? == some device) =
        surplus (table.resolve device)) ∧
      ((∀ rule ∈ table.rules, rule.flag ≠ "") →
        ((∀ issue ∈ table.warnings, issue.isRepetition = false) ↔
          ∀ device, (table.resolve device).Nodup)) := by
  refine ⟨?total, table.countP_repeatedFor, ?none⟩
  case total => rw [countP_isRepetition, length_repeatedDevices]
  case none =>
    intro present
    have flagsPresent (device : String) : ∀ flag ∈ table.resolve device, flag ≠ "" := by
      intro flag member
      exact present _ (mem_resolve.1 member)
    have noneLeft : (∀ issue ∈ table.warnings, issue.isRepetition = false) ↔
        repeatedDevices table.rules = [] := by
      rw [← List.length_eq_zero_iff, ← countP_isRepetition, List.countP_eq_zero]
      simp only [Bool.not_eq_true]
    rw [noneLeft]
    constructor
    · intro empty device
      rw [← surplus_eq_zero_iff (flagsPresent device)]
      exact (count_repeatedDevices table.rules device).symm.trans (by rw [empty, List.count_nil])
    · intro nodup
      apply List.eq_nil_iff_forall_not_mem.2
      intro device
      rw [← List.count_eq_zero, count_repeatedDevices]
      exact (surplus_eq_zero_iff (flagsPresent device)).2 (nodup device)

/-- Neither the same flag for another device nor an empty flag counts. -/
theorem repetitions_counted_apart :
    let table : RuleTable :=
      ⟨[⟨"board", "-DA"⟩, ⟨"other", "-DA"⟩, ⟨"board", ""⟩, ⟨"board", "-DA"⟩, ⟨"board", ""⟩]⟩
    let distinct : RuleTable := ⟨[⟨"board", "-DA"⟩, ⟨"other", "-DA"⟩, ⟨"board", "-DB"⟩]⟩
    table.warnings.countP (·.isRepetition) = 1 ∧
      (∀ rule ∈ distinct.rules, rule.flag ≠ "") ∧
      ∀ device, (distinct.resolve device).Nodup := by
  intro table distinct
  have given : ∀ rule ∈ distinct.rules, rule.flag ≠ "" := by decide
  rcases repetitions_counted table with ⟨total, -, -⟩
  rcases repetitions_counted distinct with ⟨-, -, noneLeft⟩
  exact ⟨total.trans (by decide), given, (noneLeft given).1 (by decide)⟩

end RuleTable

end DeviceFlags
