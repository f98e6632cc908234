import DeviceFlags.Toml.Table
import Mathlib.Data.List.Nodup

/-!
# Looking up and changing entries

What stands under a key after each operation on the entries of a table, and what
an operation needs to succeed.  Nothing but the key concerned is touched.
-/

namespace DeviceFlags.Toml

namespace Entries

/-- The keys of a table, in the order of its entries. -/
def keys (entries : Entries) : List String :=
  entries.map Prod.fst

variable {entries result : Entries} {key name : String}

@[simp] theorem keys_nil : Entries.keys [] = [] := rfl

@[simp] theorem keys_cons (key : String) (value : Value) (rest : Entries) :
    Entries.keys ((key, value) :: rest) = key :: rest.keys := rfl

@[simp] theorem keys_append (first second : Entries) :
    Entries.keys (first ++ second) = first.keys ++ second.keys :=
  List.map_append

theorem find?_cons_self (key : String) (value : Value) (rest : Entries) :
    Entries.find? ((key, value) :: rest) key = some value :=
  List.lookup_cons_self

theorem find?_cons_of_ne (other : name ≠ key) (value : Value) (rest : Entries) :
    Entries.find? ((name, value) :: rest) key = rest.find? key := by
  rw [find?, List.lookup_cons, beq_eq_false_iff_ne.2 (Ne.symm other)]
  rfl

theorem find?_eq_none_iff : entries.find? key = none ↔ key ∉ entries.keys := by
  induction entries with
  | nil => simp [find?]
  | cons entry rest ih =>
      rcases entry with ⟨name, value⟩
      by_cases same : name = key
      · subst same
        simp [find?_cons_self]
      · rw [find?_cons_of_ne same, ih]
        simp [Ne.symm same]

theorem mem_of_find? {value : Value} (found : entries.find? key = some value) :
    (key, value) ∈ entries := by
  induction entries with
  | nil => simp [find?] at found
  | cons entry rest ih =>
      rcases entry with ⟨name, other⟩
      by_cases same : name = key
      · subst same
        rw [find?_cons_self] at found
        cases found
        exact List.mem_cons_self
      · rw [find?_cons_of_ne same] at found
        exact List.mem_cons_of_mem _ (ih found)

/-- The value of a key is the one that stands under it, if none stands there
twice. -/
theorem find?_of_mem {value : Value} (distinct : entries.keys.Nodup)
    (member : (key, value) ∈ entries) : entries.find? key = some value := by
  induction entries with
  | nil => simp at member
  | cons entry rest ih =>
      rcases entry with ⟨name, other⟩
      rw [keys_cons, List.nodup_cons] at distinct
      rcases List.mem_cons.1 member with same | later
      · cases same
        exact find?_cons_self key value rest
      · have different : name ≠ key := by
          rintro rfl
          exact distinct.1 (List.mem_map.2 ⟨_, later, rfl⟩)
        rw [find?_cons_of_ne different]
        exact ih distinct.2 later

section Change

variable {edit : Option Value → Option Value}

theorem find?_change_self (changed : entries.change key edit = some result) :
    ∃ value, edit (entries.find? key) = some value ∧ result.find? key = some value := by
  induction entries generalizing result with
  | nil =>
      rcases Option.map_eq_some_iff.1 changed with ⟨value, edited, rfl⟩
      exact ⟨value, edited, find?_cons_self key value []⟩
  | cons entry rest ih =>
      rcases entry with ⟨name, value⟩
      rw [change] at changed
      split at changed
      case isTrue same =>
        subst same
        rcases Option.map_eq_some_iff.1 changed with ⟨value', edited, rfl⟩
        rw [find?_cons_self, find?_cons_self]
        exact ⟨value', edited, rfl⟩
      case isFalse other =>
        rcases Option.map_eq_some_iff.1 changed with ⟨rest', behind, rfl⟩
        rw [find?_cons_of_ne other, find?_cons_of_ne other]
        exact ih behind

theorem find?_change_of_ne (other : name ≠ key) (changed : entries.change name edit = some result) :
    result.find? key = entries.find? key := by
  induction entries generalizing result with
  | nil =>
      rcases Option.map_eq_some_iff.1 changed with ⟨value, _, rfl⟩
      exact find?_cons_of_ne other value []
  | cons entry rest ih =>
      rcases entry with ⟨first, value⟩
      rw [change] at changed
      split at changed
      case isTrue same =>
        subst same
        rcases Option.map_eq_some_iff.1 changed with ⟨value', _, rfl⟩
        rw [find?_cons_of_ne other, find?_cons_of_ne other]
      case isFalse =>
        rcases Option.map_eq_some_iff.1 changed with ⟨rest', behind, rfl⟩
        by_cases same : first = key
        · subst same
          rw [find?_cons_self, find?_cons_self]
        · rw [find?_cons_of_ne same, find?_cons_of_ne same]
          exact ih behind

theorem mem_change (changed : entries.change key edit = some result) {entry : String × Value}
    (member : entry ∈ result) :
    entry ∈ entries ∨ edit (entries.find? key) = some entry.2 := by
  induction entries generalizing result with
  | nil =>
      rcases Option.map_eq_some_iff.1 changed with ⟨value, edited, rfl⟩
      rw [List.mem_singleton] at member
      subst member
      exact Or.inr edited
  | cons first rest ih =>
      rcases first with ⟨name, value⟩
      rw [change] at changed
      split at changed
      case isTrue same =>
        subst same
        rcases Option.map_eq_some_iff.1 changed with ⟨value', edited, rfl⟩
        rcases List.mem_cons.1 member with rfl | later
        · rw [find?_cons_self]
          exact Or.inr edited
        · exact Or.inl (List.mem_cons_of_mem _ later)
      case isFalse other =>
        rcases Option.map_eq_some_iff.1 changed with ⟨rest', behind, rfl⟩
        rw [find?_cons_of_ne other, List.mem_cons]
        rcases List.mem_cons.1 member with rfl | later
        · exact Or.inl (Or.inl rfl)
        · exact (ih behind later).imp_left Or.inr

end Change

/-! ## Adding and opening -/

theorem add_eq_some_iff {value : Value} :
    Entries.add name value entries = some result ↔
      entries.find? name = none ∧ result = entries ++ [(name, value)] := by
  unfold add
  cases found : entries.find? name <;> simp [eq_comm]

theorem erase_of_find?_eq_none (absent : entries.find? name = none) :
    entries.erase name = entries := by
  rw [erase, List.filter_eq_self]
  intro entry member
  rw [bne_iff_ne]
  rintro rfl
  exact find?_eq_none_iff.1 absent (List.mem_map_of_mem member)

theorem keys_erase : (entries.erase name).keys = entries.keys.filter (· != name) := by
  rw [erase, keys, keys, List.filter_map]
  rfl

theorem find?_append_singleton_self (absent : entries.find? key = none) (value : Value) :
    Entries.find? (entries ++ [(key, value)]) key = some value := by
  rw [find?, List.lookup_append]
  rw [find?] at absent
  simp [absent]

theorem find?_append_singleton_of_ne (other : name ≠ key) (value : Value) :
    Entries.find? (entries ++ [(name, value)]) key = entries.find? key := by
  rw [find?, List.lookup_append, ← find?, ← find?, find?_cons_of_ne other]
  cases entries.find? key <;> rfl

theorem find?_filter (keep : String → Bool) (kept : keep key = true) :
    Entries.find? (entries.filter fun entry => keep entry.1) key = entries.find? key := by
  induction entries with
  | nil => rfl
  | cons entry rest ih =>
      rcases entry with ⟨name, value⟩
      by_cases same : name = key
      · subst same
        rw [List.filter_cons, if_pos kept, find?_cons_self, find?_cons_self]
      · rw [find?_cons_of_ne same, List.filter_cons]
        split
        case isTrue => rw [find?_cons_of_ne same, ih]
        case isFalse => exact ih

theorem find?_erase_of_ne (other : name ≠ key) :
    (entries.erase name).find? key = entries.find? key :=
  find?_filter (· != name) (bne_iff_ne.2 (Ne.symm other))

/-- A table is opened under a key that is new, or that stands for a table which an
inner header has implied. -/
theorem openTable_eq_some_iff {assignments : List Assignment} :
    entries.openTable name assignments = some result ↔
      ∃ before inner, (entries.find? name = none ∧ before = [] ∨
          entries.find? name = some (.table .implied before)) ∧
        Entries.assignAll before assignments = some inner ∧
        result = entries.erase name ++ [(name, .table .header inner)] := by
  unfold openTable
  split
  case h_1 absent =>
    rw [erase_of_find?_eq_none absent]
    constructor
    · intro opened
      rcases Option.bind_eq_some_iff.1 opened with ⟨inner, filled, ⟨⟩⟩
      exact ⟨[], inner, Or.inl ⟨absent, rfl⟩, filled, rfl⟩
    · rintro ⟨before, inner, (⟨-, rfl⟩ | implied), filled, rfl⟩
      · rw [filled]
        rfl
      · cases absent.symm.trans implied
  case h_2 before implied =>
    constructor
    · intro opened
      rcases Option.bind_eq_some_iff.1 opened with ⟨inner, filled, ⟨⟩⟩
      exact ⟨before, inner, Or.inr implied, filled, rfl⟩
    · rintro ⟨same, inner, (⟨absent, -⟩ | found), filled, rfl⟩
      · cases implied.symm.trans absent
      · cases implied.symm.trans found
        rw [filled]
        rfl
  case h_3 value notImplied found =>
    constructor
    · intro impossible
      cases impossible
    · rintro ⟨before, inner, (⟨absent, -⟩ | implied), -⟩
      · cases found.symm.trans absent
      · cases found.symm.trans implied
        exact (notImplied before rfl).elim

theorem find?_openTable_self {assignments : List Assignment}
    (opened : entries.openTable name assignments = some result) :
    ∃ inner, result.find? name = some (.table .header inner) := by
  rcases openTable_eq_some_iff.1 opened with ⟨before, inner, -, -, rfl⟩
  refine ⟨inner, find?_append_singleton_self ?_ _⟩
  rw [find?_eq_none_iff, keys_erase]
  simp

theorem find?_openTable_of_ne (other : name ≠ key) {assignments : List Assignment}
    (opened : entries.openTable name assignments = some result) :
    result.find? key = entries.find? key := by
  rcases openTable_eq_some_iff.1 opened with ⟨before, inner, -, -, rfl⟩
  rw [find?_append_singleton_of_ne other, find?_erase_of_ne other]

/-! ## What holds of all values -/

/-- The values of all keys are of a kind. -/
def AllValues (fits : Value → Prop) (entries : Entries) : Prop :=
  ∀ key value, entries.find? key = some value → fits value

theorem allValues_nil {fits : Value → Prop} : AllValues fits [] := by
  intro key value found
  cases found

namespace AllValues

variable {fits : Value → Prop} (all : entries.AllValues fits)
include all

theorem change {edit : Option Value → Option Value}
    (edited : ∀ value, edit (entries.find? key) = some value → fits value)
    (changed : entries.change key edit = some result) : result.AllValues fits := by
  intro name value found
  by_cases same : key = name
  · subst same
    rcases find?_change_self changed with ⟨value', edited', found'⟩
    cases found.symm.trans found'
    exact edited value edited'
  · rw [find?_change_of_ne same changed] at found
    exact all name value found

/-- An assignment makes tables, and changes the last table of an array of tables. -/
theorem assign (table : ∀ origin inner, fits (.table origin inner))
    (tables : ∀ earlier last last', fits (.tables earlier last) → fits (.tables earlier last'))
    {value : Value} (new : fits value) {parents : List String}
    (assigned : entries.assign name value parents = some result) : result.AllValues fits := by
  cases parents with
  | nil =>
      rcases add_eq_some_iff.1 assigned with ⟨absent, rfl⟩
      intro key value' found
      by_cases same : name = key
      · subst same
        rw [find?_append_singleton_self absent] at found
        cases found
        exact new
      · rw [find?_append_singleton_of_ne same] at found
        exact all key value' found
  | cons parent beyond =>
      rw [Entries.assign] at assigned
      refine all.change ?_ assigned
      intro value' edited
      cases found : entries.find? parent with
      | none =>
          rw [found] at edited
          rcases Option.map_eq_some_iff.1 edited with ⟨inner, _, rfl⟩
          exact table _ inner
      | some old =>
          rw [found] at edited
          cases old with
          | table origin inner =>
              simp only at edited
              split at edited
              case isTrue =>
                rcases Option.map_eq_some_iff.1 edited with ⟨inner', _, rfl⟩
                exact table origin inner'
              case isFalse => cases edited
          | tables earlier last =>
              simp only at edited
              split at edited
              case isTrue => cases edited
              case isFalse =>
                rcases Option.map_eq_some_iff.1 edited with ⟨last', _, rfl⟩
                exact tables earlier last last' (all parent _ found)
          | _ => cases edited

end AllValues

/-! ## Runs -/

/-- What each step of a run keeps up holds at its end. -/
theorem foldlM_preserves {α : Type} {step : Entries → α → Option Entries}
    {holds : Entries → Prop} {items : List α}
    (each : ∀ item ∈ items, ∀ before after, step before item = some after →
      holds before → holds after)
    (start : holds entries) (done : items.foldlM step entries = some result) : holds result := by
  induction items generalizing entries with
  | nil =>
      cases done
      exact start
  | cons item rest ih =>
      rw [List.forall_mem_cons] at each
      rw [List.foldlM_cons] at done
      rcases Option.bind_eq_some_iff.1 done with ⟨middle, first, later⟩
      exact ih each.2 (each.1 entries middle first start) later

end Entries

end DeviceFlags.Toml
