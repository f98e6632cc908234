import DeviceFlags.Proofs.Toml.Distinct
import Mathlib.Data.List.Forall2

/-!
# Arrays of tables

Each header in double brackets begins a table of its own, and the sections behind
it that lie inside it belong to that table, up to the next header of the kind.
So each element of an array of tables is itself a document: what its header
assigns, and the sections inside it with the name of the array taken off.
-/

namespace DeviceFlags.Toml

/-- A key that leads into the table under a name, as that table sees it. -/
def KeyPath.within? (path : KeyPath) (key : String) : Option KeyPath :=
  match path with
  | ⟨[], _⟩ => none
  | ⟨parent :: beyond, name⟩ => if parent = key then some ⟨beyond, name⟩ else none

theorem KeyPath.within?_eq_some_iff {path inside : KeyPath} {key : String} :
    path.within? key = some inside ↔ path = ⟨key :: inside.parents, inside.name⟩ := by
  rcases path with ⟨_ | ⟨parent, beyond⟩, name⟩
  · simp [within?]
  · rcases inside with ⟨parents, last⟩
    by_cases same : parent = key <;> simp [within?, same]

theorem KeyPath.ne_of_within?_eq_none {parent key name : String} {beyond : List String}
    (elsewhere : KeyPath.within? ⟨parent :: beyond, name⟩ key = none) : parent ≠ key := by
  rintro rfl
  simp [within?] at elsewhere

namespace Section

/-- A section begins a new element of the array of tables under a key. -/
def begins (added : Section) (key : String) : Bool :=
  match added.header with
  | .element ⟨[], name⟩ => name == key
  | _ => false

/-- A section inside the table under a key, as that table sees it. -/
def within? (added : Section) (key : String) : Option Section :=
  match added.header with
  | .table path => (path.within? key).map fun path => ⟨.table path, added.assignments⟩
  | .element path => (path.within? key).map fun path => ⟨.element path, added.assignments⟩

theorem begins_eq_true_iff {added : Section} {key : String} :
    added.begins key = true ↔ added.header = .element ⟨[], key⟩ := by
  unfold begins
  split
  case h_1 name header => simp [header]
  case h_2 other =>
    constructor
    · intro impossible
      cases impossible
    · intro header
      exact (other key header).elim

end Section

/-- Of some sections those inside the table under a key, up to the one that begins
the next table. -/
def insideNext (key : String) (sections : List Section) : List Section :=
  (sections.takeWhile fun later => !later.begins key).filterMap (·.within? key)

/-- What is written of the elements of an array of tables, each from its header
to the next. -/
def elementsAmong (key : String) : List Section → List Body
  | [] => []
  | added :: rest =>
      if added.begins key then ⟨added.assignments, insideNext key rest⟩ :: elementsAmong key rest
      else elementsAmong key rest

/-- What a document says of the elements of the array of tables under a key. -/
def Body.elements (body : Body) (key : String) : List Body :=
  elementsAmong key body.sections

namespace Entries

/-- The tables of the array of tables under a key, if there is one. -/
def tablesUnder (entries : Entries) (key : String) : List Entries :=
  match entries.find? key with
  | some (.tables earlier last) => earlier ++ [last]
  | _ => []

variable {entries result : Entries} {key : String}

theorem tablesUnder_of_find? {earlier : List Entries} {last : Entries}
    (found : entries.find? key = some (.tables earlier last)) :
    entries.tablesUnder key = earlier ++ [last] := by
  rw [tablesUnder, found]

theorem tablesUnder_of_none (absent : entries.find? key = none) : entries.tablesUnder key = [] := by
  rw [tablesUnder, absent]

theorem tablesUnder_of_not_isTables {value : Value} (found : entries.find? key = some value)
    (other : ¬value.IsTables) : entries.tablesUnder key = [] := by
  rw [tablesUnder, found]
  split
  case h_1 earlier last same =>
    cases same
    exact (other ⟨earlier, last, rfl⟩).elim
  case h_2 => rfl

theorem tablesUnder_congr (same : result.find? key = entries.find? key) :
    result.tablesUnder key = entries.tablesUnder key := by
  rw [tablesUnder, tablesUnder, same]

/-! ## One section -/

/-- A header in double brackets adds one table, filled by its assignments. -/
theorem tablesUnder_of_begins {added : Section} (begins : added.begins key = true)
    (done : entries.addSection added = some result) :
    ∃ inner, Entries.assignAll [] added.assignments = some inner ∧
      result.tablesUnder key = entries.tablesUnder key ++ [inner] := by
  rcases added with ⟨header, assignments⟩
  obtain rfl : header = .element ⟨[], key⟩ := Section.begins_eq_true_iff.1 begins
  rcases Option.bind_eq_some_iff.1 done with ⟨inner, filled, changed⟩
  rcases find?_change_self changed with ⟨value, edited, found⟩
  refine ⟨inner, filled, ?_⟩
  cases before : entries.find? key with
  | none =>
      rw [before] at edited
      cases edited
      rw [tablesUnder_of_find? found, tablesUnder_of_none before]
  | some old =>
      rw [before] at edited
      cases old with
      | tables earlier last =>
          cases edited
          rw [tablesUnder_of_find? found, tablesUnder_of_find? before]
      | _ => cases edited

/-- A change inside the table under a key changes the last table of an array of
tables, and makes none of a table that is not of an array. -/
theorem tablesUnder_within {edit : Entries → Option Entries} {beyond : List String}
    (changed : entries.within edit (key :: beyond) = some result) :
    (entries.tablesUnder key = [] ∧ result.tablesUnder key = []) ∨
      ∃ earlier last last', entries.tablesUnder key = earlier ++ [last] ∧
        Entries.within edit beyond last = some last' ∧
        result.tablesUnder key = earlier ++ [last'] := by
  rw [within] at changed
  rcases find?_change_self changed with ⟨value, edited, found⟩
  have single {origin : Origin} {inner : Entries} : ¬(Value.table origin inner).IsTables := by
    rintro ⟨earlier, last, ⟨⟩⟩
  cases before : entries.find? key with
  | none =>
      rw [before] at edited
      rcases Option.map_eq_some_iff.1 edited with ⟨inner, _, rfl⟩
      exact Or.inl ⟨tablesUnder_of_none before, tablesUnder_of_not_isTables found single⟩
  | some old =>
      rw [before] at edited
      cases old with
      | table origin inner =>
          cases origin with
          | inline => cases edited
          | _ =>
              rcases Option.map_eq_some_iff.1 edited with ⟨inner', _, rfl⟩
              exact Or.inl ⟨tablesUnder_of_not_isTables before single,
                tablesUnder_of_not_isTables found single⟩
      | tables earlier last =>
          rcases Option.map_eq_some_iff.1 edited with ⟨last', changed, rfl⟩
          exact Or.inr ⟨earlier, last, last', tablesUnder_of_find? before, changed,
            tablesUnder_of_find? found⟩
      | _ => cases edited

theorem tablesUnder_of_within? {added inside : Section} (within : added.within? key = some inside)
    (done : entries.addSection added = some result) :
    (entries.tablesUnder key = [] ∧ result.tablesUnder key = []) ∨
      ∃ earlier last last', entries.tablesUnder key = earlier ++ [last] ∧
        Entries.addSection last inside = some last' ∧
        result.tablesUnder key = earlier ++ [last'] := by
  rcases added with ⟨header, assignments⟩
  cases header with
  | table path =>
      rcases Option.map_eq_some_iff.1 within with ⟨inner, isInside, rfl⟩
      obtain rfl := KeyPath.within?_eq_some_iff.1 isInside
      exact tablesUnder_within done
  | element path =>
      rcases Option.map_eq_some_iff.1 within with ⟨inner, isInside, rfl⟩
      obtain rfl := KeyPath.within?_eq_some_iff.1 isInside
      exact tablesUnder_within done

/-- Opening a table under a key makes no array of tables, nor does it touch one. -/
theorem tablesUnder_openTable {name : String} {assignments : List Assignment}
    (opened : entries.openTable name assignments = some result) :
    result.tablesUnder key = entries.tablesUnder key := by
  by_cases same : name = key
  · subst same
    have single {origin : Origin} {inner : Entries} : ¬(Value.table origin inner).IsTables := by
      rintro ⟨earlier, last, ⟨⟩⟩
    rcases find?_openTable_self opened with ⟨inner, found⟩
    rw [tablesUnder_of_not_isTables found single]
    rcases openTable_eq_some_iff.1 opened with ⟨before, _, ⟨absent, -⟩ | implied, -⟩
    · rw [tablesUnder_of_none absent]
    · rw [tablesUnder_of_not_isTables implied single]
  · exact tablesUnder_congr (find?_openTable_of_ne same opened)

/-- A section elsewhere leaves the tables under a key alone. -/
theorem tablesUnder_of_elsewhere {added : Section} (begins : ¬added.begins key = true)
    (within : added.within? key = none) (done : entries.addSection added = some result) :
    result.tablesUnder key = entries.tablesUnder key := by
  rcases added with ⟨header, assignments⟩
  cases header with
  | table path =>
      have elsewhere := Option.map_eq_none_iff.1 within
      rcases path with ⟨_ | ⟨parent, beyond⟩, name⟩
      · exact tablesUnder_openTable done
      · exact tablesUnder_congr
          (find?_change_of_ne (KeyPath.ne_of_within?_eq_none elsewhere) done)
  | element path =>
      have elsewhere := Option.map_eq_none_iff.1 within
      rcases path with ⟨_ | ⟨parent, beyond⟩, name⟩
      · have other : name ≠ key := by
          rintro rfl
          exact begins (Section.begins_eq_true_iff.2 rfl)
        rcases Option.bind_eq_some_iff.1 done with ⟨inner, _, changed⟩
        exact tablesUnder_congr (find?_change_of_ne other changed)
      · exact tablesUnder_congr
          (find?_change_of_ne (KeyPath.ne_of_within?_eq_none elsewhere) done)

/-! ## One section after another -/

end Entries

section Run

variable {key : String} {added inside : Section} {rest : List Section}

theorem Section.not_begins_of_within? (within : added.within? key = some inside) :
    ¬added.begins key = true := by
  intro begins
  rcases added with ⟨header, assignments⟩
  obtain rfl : header = .element ⟨[], key⟩ := Section.begins_eq_true_iff.1 begins
  cases within

theorem insideNext_of_begins (begins : added.begins key = true) :
    insideNext key (added :: rest) = [] := by
  simp [insideNext, begins]

theorem insideNext_of_within? (within : added.within? key = some inside) :
    insideNext key (added :: rest) = inside :: insideNext key rest := by
  simp [insideNext, Section.not_begins_of_within? within, within]

theorem insideNext_of_elsewhere (begins : ¬added.begins key = true)
    (within : added.within? key = none) :
    insideNext key (added :: rest) = insideNext key rest := by
  simp [insideNext, begins, within]

theorem elementsAmong_of_begins (begins : added.begins key = true) :
    elementsAmong key (added :: rest) =
      ⟨added.assignments, insideNext key rest⟩ :: elementsAmong key rest :=
  if_pos begins

theorem elementsAmong_of_not_begins (begins : ¬added.begins key = true) :
    elementsAmong key (added :: rest) = elementsAmong key rest :=
  if_neg begins

/-- The sections up to the next header of an array of tables go on with its last
table, and each header from there on gives one more. -/
theorem tablesUnder_addSections {sections : List Section} {entries result : Entries}
    (done : sections.foldlM Entries.addSection entries = some result) :
    (entries.tablesUnder key = [] →
        List.Forall₂ Body.Gives (elementsAmong key sections) (result.tablesUnder key)) ∧
      ∀ earlier last, entries.tablesUnder key = earlier ++ [last] →
        ∃ last' more, (insideNext key sections).foldlM Entries.addSection last = some last' ∧
          List.Forall₂ Body.Gives (elementsAmong key sections) more ∧
          result.tablesUnder key = earlier ++ last' :: more := by
  induction sections generalizing entries with
  | nil =>
      cases done
      constructor
      · intro none
        rw [none]
        exact .nil
      · intro earlier last some
        exact ⟨last, [], rfl, .nil, some⟩
  | cons added rest ih =>
      rw [List.foldlM_cons] at done
      rcases Option.bind_eq_some_iff.1 done with ⟨middle, first, later⟩
      by_cases begins : added.begins key = true
      · rcases Entries.tablesUnder_of_begins begins first with ⟨inner, filled, grown⟩
        rcases (ih later).2 _ _ grown with ⟨inner', more, inside, gives, tables⟩
        have given : Body.Gives ⟨added.assignments, insideNext key rest⟩ inner' := by
          rw [Body.Gives, Body.entries?, filled]
          exact inside
        rw [elementsAmong_of_begins begins, insideNext_of_begins begins, tables]
        constructor
        · intro none
          rw [none]
          exact .cons given gives
        · intro earlier last some
          refine ⟨last, inner' :: more, rfl, .cons given gives, ?_⟩
          rw [some, List.append_assoc]
          rfl
      · rw [elementsAmong_of_not_begins begins]
        cases within : added.within? key with
        | some inside =>
            rw [insideNext_of_within? within]
            rcases Entries.tablesUnder_of_within? within first with
              ⟨noneBefore, noneAfter⟩ | ⟨front, table, table', before, changed, after⟩
            · refine ⟨fun _ => (ih later).1 noneAfter, ?_⟩
              intro earlier last some
              simp [noneBefore] at some
            · rcases (ih later).2 _ _ after with ⟨last', more, further, gives, tables⟩
              constructor
              · intro none
                simp [none] at before
              · intro earlier last some
                obtain ⟨rfl, same⟩ := List.append_inj' (before.symm.trans some) rfl
                cases same
                refine ⟨last', more, ?_, gives, tables⟩
                rw [List.foldlM_cons, changed]
                exact further
        | none =>
            rw [insideNext_of_elsewhere begins within,
              ← Entries.tablesUnder_of_elsewhere begins within first]
            exact ih later

end Run

/-! ## Documents -/

/-- Assignments make no array of tables. -/
theorem Entries.tablesUnder_assignAll {entries : Entries} {assignments : List Assignment}
    (single : ∀ assignment ∈ assignments, ¬assignment.value.IsTables)
    (assigned : Entries.assignAll [] assignments = some entries) (key : String) :
    entries.tablesUnder key = [] := by
  have noTables : entries.AllValues fun value => ¬value.IsTables := by
    refine foldlM_preserves ?_ allValues_nil assigned
    intro assignment member before after done all
    refine all.assign ?_ ?_ (single assignment member) done
    · rintro origin inner ⟨earlier, last, ⟨⟩⟩
    · intro earlier last last' impossible
      exact absurd ⟨earlier, last, rfl⟩ impossible
  cases found : entries.find? key with
  | none => exact tablesUnder_of_none found
  | some value => exact tablesUnder_of_not_isTables found (noTables key value found)

/-- Each element of an array of tables is what is written of it, from its header
to the next one. -/
theorem elements_give {text : List Char} {body : Body} {entries : Entries}
    (written : body? text = some body) (gives : body.Gives entries) (key : String) :
    List.Forall₂ Body.Gives (body.elements key) (entries.tablesUnder key) := by
  rcases Option.bind_eq_some_iff.1 gives with ⟨first, assigned, added⟩
  refine (tablesUnder_addSections added).1 (Entries.tablesUnder_assignAll ?_ assigned key)
  intro assignment member
  rcases body_assignments_isReadIn written assignment member with ⟨front, behind, -, read⟩
  exact Value.not_isTables_of_readWithin read

end DeviceFlags.Toml
