import DeviceFlags.Proofs.Toml.KeyOrder
import DeviceFlags.Proofs.Toml.Scalar

/-!
# Arrays and inline tables

What stands between brackets or braces is read where it stands and never changed
by what follows.  So an array of a document, with all tables in it, is one that
was read from the text, and the keys of such a table are in the order in which
its assignments name them first.
-/

namespace DeviceFlags.Toml

/-- A value has been read where it stands in a text. -/
def Value.IsReadIn (text : List Char) (value : Value) : Prop :=
  ∃ depth front rest, front <:+ text ∧ readWithin depth front = some (value, rest)

theorem Assignment.IsReadIn.value {text : List Char} {assignment : Assignment}
    (read : assignment.IsReadIn text) : assignment.value.IsReadIn text :=
  ⟨nestingLimit - 1, read⟩

/-! ## Inline tables -/

namespace Value

/-- What is written between the braces of an inline table. -/
def inlineAssignments (reader : Reader Value) (text : List Char) : List Assignment :=
  (Reader.separated ',' (Reader.between skipSpace (Assignment.read reader)) text).1

/-- The keys between braces are in the order in which they are named first. -/
theorem keys_of_inlineEntries {reader : Reader Value} {text rest : List Char} {entries : Entries}
    (read : inlineEntries reader text = some (entries, rest)) :
    entries.keys = ((inlineAssignments reader text).map (·.key.head)).eraseDups := by
  rcases Option.bind_eq_some_iff.1 read with ⟨behind, -, read⟩
  rcases Option.bind_eq_some_iff.1 read with ⟨same, assigned, ⟨⟩⟩
  -- Nothing between braces opens a table, so each assignment counts.
  have settled (assignments : List Assignment) :
      Mention.settled (assignments.map Assignment.mention) =
        assignments.map Assignment.mention := by
    induction assignments with
    | nil => rfl
    | cons assignment later ih =>
        rw [List.map_cons, Mention.settled, if_neg, ih]
        simp [Assignment.mention]
  have inOrder : entries.keys =
      ((Mention.settled ((inlineAssignments reader text).map Assignment.mention)).map
        Mention.key).eraseDups :=
    (Entries.keys_assignAll assigned).trans (Mention.foldl_note_eq_eraseDups _)
  rw [inOrder, settled, List.map_map]
  rfl

theorem isReadIn_of_mem_array {text : List Char} {elements : List Value}
    (read : (Value.array elements).IsReadIn text) {element : Value} (member : element ∈ elements) :
    element.IsReadIn text := by
  rcases read with ⟨_ | depth, front, rest, within, read⟩
  · cases isScalar_of_scalar read
  · simp only [readWithin] at read
    split at read
    case h_1 inner =>
      rcases Option.map_eq_some_iff.1 read with ⟨⟨same, behind⟩, elementsRead, ⟨⟩⟩
      rcases exists_of_mem_elements elementsRead member with
        ⟨front', behind', elementRead, inside⟩
      have inArray := inside (takesFront_readWithin depth)
      exact ⟨depth, front', behind',
        inArray.trans ((List.suffix_cons '[' inner).trans within), elementRead⟩
    case h_2 =>
      rcases Option.map_eq_some_iff.1 read with ⟨⟨entries, behind⟩, _, ⟨⟩⟩
    case h_3 => cases isScalar_of_scalar read

/-- A table that is read stands between braces. -/
theorem exists_inlineEntries_of_isReadIn {text : List Char} {origin : Origin} {entries : Entries}
    (read : (Value.table origin entries).IsReadIn text) :
    ∃ depth front rest, '{' :: front <:+ text ∧
      inlineEntries (readWithin depth) front = some (entries, rest) := by
  rcases read with ⟨_ | depth, front, rest, within, read⟩
  · cases isScalar_of_scalar read
  · simp only [readWithin] at read
    split at read
    case h_1 =>
      rcases Option.map_eq_some_iff.1 read with ⟨⟨values, behind⟩, _, ⟨⟩⟩
    case h_2 inner =>
      rcases Option.map_eq_some_iff.1 read with ⟨⟨same, behind⟩, entriesRead, ⟨⟩⟩
      exact ⟨depth, inner, _, within, entriesRead⟩
    case h_3 => cases isScalar_of_scalar read

end Value

/-! ## Arrays of a document -/

/-- A value is no array, or one that has been read where it stands in a text. -/
def Value.ReadIfArray (text : List Char) (value : Value) : Prop :=
  ∀ elements, value = .array elements → value.IsReadIn text

theorem Value.IsReadIn.readIfArray {text : List Char} {value : Value}
    (read : value.IsReadIn text) : value.ReadIfArray text :=
  fun _ _ => read

namespace Entries

variable {text : List Char} {entries result : Entries}
  (all : entries.AllValues (Value.ReadIfArray text))
include all

theorem readIfArray_assign {name : String} {value : Value} (read : value.IsReadIn text)
    {parents : List String} (assigned : entries.assign name value parents = some result) :
    result.AllValues (Value.ReadIfArray text) := by
  refine all.assign ?_ ?_ read.readIfArray assigned
  · rintro origin inner elements ⟨⟩
  · rintro earlier last last' _ elements ⟨⟩

theorem readIfArray_within {edit : Entries → Option Entries}
    (edits : ∀ result, edit entries = some result → result.AllValues (Value.ReadIfArray text))
    {parents : List String} (changed : entries.within edit parents = some result) :
    result.AllValues (Value.ReadIfArray text) := by
  cases parents with
  | nil => exact edits result changed
  | cons parent beyond =>
      rw [within] at changed
      refine all.change ?_ changed
      rintro value edited elements rfl
      revert edited
      split <;> simp

theorem readIfArray_openTable {name : String} {assignments : List Assignment}
    (opened : entries.openTable name assignments = some result) :
    result.AllValues (Value.ReadIfArray text) := by
  intro key value found
  by_cases same : name = key
  · subst same
    rcases find?_openTable_self opened with ⟨inner, found'⟩
    cases found.symm.trans found'
    rintro elements ⟨⟩
  · rw [find?_openTable_of_ne same opened] at found
    exact all key value found

theorem readIfArray_openElement {name : String} {assignments : List Assignment}
    (opened : entries.openElement name assignments = some result) :
    result.AllValues (Value.ReadIfArray text) := by
  rcases Option.bind_eq_some_iff.1 opened with ⟨inner, -, changed⟩
  refine all.change ?_ changed
  rintro value edited elements rfl
  revert edited
  split <;> simp

theorem readIfArray_addSection {added : Section} (done : entries.addSection added = some result) :
    result.AllValues (Value.ReadIfArray text) := by
  rcases added with ⟨header, assignments⟩
  cases header with
  | table key =>
      exact readIfArray_within all (fun _ opened => readIfArray_openTable all opened) done
  | element key =>
      exact readIfArray_within all (fun _ opened => readIfArray_openElement all opened) done

end Entries

/-- The arrays under the keys of a document have been read where they stand in its
text. -/
theorem readIfArray_of_body? {text : List Char} {body : Body} {entries : Entries}
    (written : body? text = some body) (gives : body.Gives entries) :
    entries.AllValues (Value.ReadIfArray text) := by
  rcases Option.bind_eq_some_iff.1 gives with ⟨first, assigned, added⟩
  have fromAssignments : first.AllValues (Value.ReadIfArray text) := by
    refine Entries.foldlM_preserves ?_ Entries.allValues_nil assigned
    intro assignment member before after done all
    exact Entries.readIfArray_assign all (body_assignments_isReadIn written assignment member).value
      done
  refine Entries.foldlM_preserves ?_ fromAssignments added
  intro added _ before after done all
  exact Entries.readIfArray_addSection all done

end DeviceFlags.Toml
