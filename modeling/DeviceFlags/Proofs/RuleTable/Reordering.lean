import DeviceFlags.RuleTable.Basic
import Mathlib.Logic.Relation

/-!
# Reordering rules

Rules of different devices do not see one another, so two neighbours with
different devices may change places.  Nothing else about the order of a table is
free: two tables give the same flags to every device only if such changes lead
from one to the other.
-/

namespace DeviceFlags

open Relation (ReflTransGen)

/-- Two neighbours with different devices change places. -/
inductive Swap : List Rule → List Rule → Prop where
  | neighbours (before : List Rule) {first second : Rule} (after : List Rule)
      (apart : first.device ≠ second.device) :
      Swap (before ++ first :: second :: after) (before ++ second :: first :: after)

namespace Swap

variable {rules rules' : List Rule}

theorem cons (rule : Rule) (swap : Swap rules rules') :
    Swap (rule :: rules) (rule :: rules') := by
  cases swap with
  | neighbours before after apart => exact .neighbours (rule :: before) after apart

end Swap

namespace RuleTable

theorem resolve_cons (rule : Rule) (rest : List Rule) (device : String) :
    resolve ⟨rule :: rest⟩ device = resolve ⟨[rule]⟩ device ++ resolve ⟨rest⟩ device :=
  resolve_append ⟨[rule]⟩ ⟨rest⟩ device

/-- Of two rules of different devices a device gets one flag at most. -/
theorem resolve_comm {first second : Rule} (apart : first.device ≠ second.device)
    (device : String) :
    resolve ⟨[first]⟩ device ++ resolve ⟨[second]⟩ device =
      resolve ⟨[second]⟩ device ++ resolve ⟨[first]⟩ device := by
  by_cases same : first.device = device
  · have other : second.device ≠ device := same ▸ apart.symm
    simp [resolve, Rule.appliesTo, other]
  · simp [resolve, Rule.appliesTo, same]

variable {rules rules' : List Rule}

theorem resolve_eq_of_swap (swap : Swap rules rules') (device : String) :
    resolve ⟨rules⟩ device = resolve ⟨rules'⟩ device := by
  cases swap with
  | neighbours before after apart =>
      have split (one other : Rule) : resolve ⟨before ++ one :: other :: after⟩ device =
          resolve ⟨before⟩ device ++
            (resolve ⟨[one]⟩ device ++ resolve ⟨[other]⟩ device ++ resolve ⟨after⟩ device) := by
        rw [List.append_assoc, ← resolve_cons other after, ← resolve_cons one (other :: after)]
        exact resolve_append ⟨before⟩ ⟨one :: other :: after⟩ device
      rw [split, split, resolve_comm apart]

theorem resolve_eq_of_swaps (swaps : ReflTransGen Swap rules rules') (device : String) :
    resolve ⟨rules⟩ device = resolve ⟨rules'⟩ device := by
  induction swaps with
  | refl => rfl
  | tail _ swap ih => exact ih.trans (resolve_eq_of_swap swap device)

/-- A rule may go in front of rules of other devices. -/
theorem swaps_to_front {before : List Rule} {rule : Rule}
    (apart : ∀ other ∈ before, other.device ≠ rule.device) (after : List Rule) :
    ReflTransGen Swap (before ++ rule :: after) (rule :: (before ++ after)) := by
  induction before with
  | nil => exact .refl
  | cons other before ih =>
      rw [List.forall_mem_cons] at apart
      have moved : ReflTransGen Swap (other :: (before ++ rule :: after))
          (other :: rule :: (before ++ after)) :=
        (ih apart.2).lift (other :: ·) fun _ _ swap => swap.cons other
      exact moved.tail (.neighbours [] (before ++ after) apart.1)

/-- The first flag of a device comes from the first of its rules. -/
theorem exists_first_of_resolve {device flag : String} {flags : List String}
    (resolved : resolve ⟨rules⟩ device = flag :: flags) :
    ∃ before after, rules = before ++ ⟨device, flag⟩ :: after ∧
      ∀ other ∈ before, other.device ≠ device := by
  rcases List.map_eq_cons_iff.1 resolved with ⟨rule, rest, picked, rfl, -⟩
  rcases List.filter_eq_cons_iff.1 picked with ⟨before, after, split, others, applies, -⟩
  have named : rule.device = device := beq_iff_eq.1 applies
  subst named
  refine ⟨before, after, split, ?_⟩
  intro other member same
  exact others other member (beq_iff_eq.2 same)

theorem rules_eq_nil_of_resolve (resolved : ∀ device, resolve ⟨rules⟩ device = []) :
    rules = [] := by
  apply List.eq_nil_iff_forall_not_mem.2
  intro rule member
  have found : rule.flag ∈ resolve ⟨rules⟩ rule.device := mem_resolve.2 member
  rw [resolved rule.device] at found
  exact List.not_mem_nil found

/-- Rules that give the same flags to every device are put in the same order by
moving, one after another, each rule of the first list to the front of what is
left of the second. -/
theorem swaps_of_resolve_eq
    (same : ∀ device, resolve ⟨rules⟩ device = resolve ⟨rules'⟩ device) :
    ReflTransGen Swap rules' rules := by
  induction rules generalizing rules' with
  | nil =>
      rw [rules_eq_nil_of_resolve fun device => (same device).symm]
  | cons rule rest ih =>
      have front : resolve ⟨rules'⟩ rule.device =
          rule.flag :: resolve ⟨rest⟩ rule.device := by
        rw [← same, resolve_cons]
        simp [resolve, Rule.appliesTo]
      rcases exists_first_of_resolve front with ⟨before, after, rfl, apart⟩
      have moved : ReflTransGen Swap (before ++ rule :: after) (rule :: (before ++ after)) :=
        swaps_to_front apart after
      have left (device : String) :
          resolve ⟨rest⟩ device = resolve ⟨before ++ after⟩ device := by
        have whole := (same device).trans (resolve_eq_of_swaps moved device)
        rw [resolve_cons rule rest, resolve_cons rule (before ++ after)] at whole
        exact List.append_cancel_left whole
      exact moved.trans ((ih left).lift (rule :: ·) fun _ _ swap => swap.cons rule)

/-- Two tables give the same flags to every device exactly if one is the other
with neighbours of different devices swapped, any number of times. -/
theorem resolve_eq_iff_swaps (first second : RuleTable) :
    (∀ device, first.resolve device = second.resolve device) ↔
      ReflTransGen Swap first.rules second.rules := by
  constructor
  · intro same
    exact swaps_of_resolve_eq fun device => (same device).symm
  · intro swaps device
    exact resolve_eq_of_swaps swaps device

end RuleTable

end DeviceFlags
