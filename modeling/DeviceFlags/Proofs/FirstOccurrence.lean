import Mathlib.Data.List.Basic

/-!
# First occurrences

Dropping repetitions keeps the first occurrence of each item, and so the order
in which the items occur first.
-/

namespace DeviceFlags

variable {α : Type} [BEq α] [LawfulBEq α]

theorem eraseDups_filter (keep : α → Bool) (items : List α) :
    (items.filter keep).eraseDups = items.eraseDups.filter keep := by
  match items with
  | [] => rfl
  | first :: rest =>
      have ih := eraseDups_filter keep (rest.filter fun item => !item == first)
      rw [List.eraseDups_cons, List.filter_cons, List.filter_cons, ← ih, List.filter_filter]
      split
      case isTrue kept =>
        rw [List.eraseDups_cons, List.filter_filter]
        simp only [Bool.and_comm]
      case isFalse dropped =>
        congr 1
        apply List.filter_congr
        intro item _
        by_cases same : item = first
        · simp_all
        · simp_all
termination_by items.length
decreasing_by
  have := List.length_filter_le (fun item => !item == first) rest
  simp only [List.length_cons]
  omega

variable {items : List α} {first second : α}

theorem mem_of_idxOf_lt (earlier : items.idxOf first < items.idxOf second) : first ∈ items :=
  List.idxOf_lt_length_iff.1 (Nat.lt_of_lt_of_le earlier List.idxOf_le_length)

/-- An item that occurs before another one is kept before it: the items up to its
first occurrence are treated alike, whatever comes behind them. -/
theorem idxOf_eraseDups_lt (earlier : items.idxOf first < items.idxOf second) :
    items.eraseDups.idxOf first < items.eraseDups.idxOf second := by
  rcases List.eq_append_cons_of_mem (mem_of_idxOf_lt earlier) with ⟨before, after, rfl, notBefore⟩
  rw [List.append_cons] at earlier ⊢
  have last : first ∈ before ++ [first] := List.mem_append_right _ (List.mem_singleton_self first)
  have position : (before ++ [first]).idxOf first = before.length := by
    rw [List.idxOf_append_of_notMem notBefore, List.idxOf_cons_self, Nat.add_zero]
  have absent : second ∉ before ++ [first] := by
    intro member
    have bound := List.idxOf_lt_length_of_mem member
    rw [List.length_append, List.length_singleton] at bound
    rw [List.idxOf_append_of_mem last, List.idxOf_append_of_mem member, position] at earlier
    omega
  have kept : first ∈ (before ++ [first]).eraseDups := List.mem_eraseDups.2 last
  rw [List.eraseDups_append, List.idxOf_append_of_mem kept,
    List.idxOf_append_of_notMem (mt List.mem_eraseDups.1 absent)]
  exact Nat.lt_of_lt_of_le (List.idxOf_lt_length_of_mem kept) (Nat.le_add_right _ _)

theorem idxOf_eraseDups_lt_iff :
    items.eraseDups.idxOf first < items.eraseDups.idxOf second ↔
      items.idxOf first < items.idxOf second := by
  refine ⟨?_, idxOf_eraseDups_lt⟩
  intro earlier
  rcases Nat.lt_trichotomy (items.idxOf first) (items.idxOf second) with less | equal | greater
  · exact less
  · have present : first ∈ items := List.mem_eraseDups.1 (mem_of_idxOf_lt earlier)
    rw [(List.idxOf_inj present).1 equal] at earlier
    exact absurd earlier (Nat.lt_irrefl _)
  · exact absurd earlier (Nat.lt_asymm (idxOf_eraseDups_lt greater))

/-- Without repetitions an item is at its first position only. -/
theorem getElem?_eq_some_iff_idxOf (nodup : items.Nodup) {position : Nat} :
    items[position]? = some first ↔ first ∈ items ∧ items.idxOf first = position := by
  constructor
  · intro found
    rcases List.getElem?_eq_some_iff.1 found with ⟨bound, rfl⟩
    exact ⟨List.getElem_mem bound, nodup.idxOf_getElem position bound⟩
  · intro here
    rw [← here.2]
    exact List.getElem?_idxOf here.1

end DeviceFlags
