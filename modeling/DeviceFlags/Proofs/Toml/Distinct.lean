import DeviceFlags.Proofs.Toml.KeyOrder
import DeviceFlags.Proofs.Toml.Scalar

/-!
# No key twice

No table of a document holds a key twice, however deep it lies.  So the value of
a key is the one value that stands under it.  Each operation on entries keeps
this up, and each value that is read has it.
-/

namespace DeviceFlags.Toml

/-- No table inside a value holds a key twice, nor does the value itself. -/
inductive Value.Distinct : Value → Prop where
  | string (text : String) : Distinct (.string text)
  | integer (number : Int) : Distinct (.integer number)
  | float (number : Float) : Distinct (.float number)
  | truth (value : Bool) : Distinct (.truth value)
  | moment (moment : Moment) : Distinct (.moment moment)
  | array {elements : List Value} (each : ∀ element ∈ elements, Distinct element) :
      Distinct (.array elements)
  | table {origin : Origin} {entries : Entries} (keys : entries.keys.Nodup)
      (each : ∀ entry ∈ entries, Distinct entry.2) : Distinct (.table origin entries)
  | tables {earlier : List Entries} {last : Entries}
      (keys : ∀ entries ∈ earlier ++ [last], (Entries.keys entries).Nodup)
      (each : ∀ entries ∈ earlier ++ [last], ∀ entry ∈ entries, Distinct entry.2) :
      Distinct (.tables earlier last)

/-- No key stands twice among entries, nor in a table inside them. -/
structure Entries.Distinct (entries : Entries) : Prop where
  keys : entries.keys.Nodup
  each : ∀ entry ∈ entries, entry.2.Distinct

namespace Value.Distinct

theorem of_entries {entries : Entries} (distinct : entries.Distinct) (origin : Origin) :
    Distinct (.table origin entries) :=
  .table distinct.keys distinct.each

theorem of_tables {earlier : List Entries} {last : Entries}
    (distinct : ∀ entries ∈ earlier ++ [last], Entries.Distinct entries) :
    Distinct (.tables earlier last) :=
  .tables (fun entries member => (distinct entries member).keys)
    (fun entries member => (distinct entries member).each)

theorem entries {origin : Origin} {entries : Entries}
    (distinct : Distinct (.table origin entries)) :
    entries.Distinct := by
  cases distinct with
  | table keys each => exact ⟨keys, each⟩

theorem all_entries {earlier : List Entries} {last : Entries}
    (distinct : Distinct (.tables earlier last)) :
    ∀ entries ∈ earlier ++ [last], Entries.Distinct entries := by
  cases distinct with
  | tables keys each => exact fun entries member => ⟨keys entries member, each entries member⟩

theorem last {earlier : List Entries} {last : Entries}
    (distinct : Distinct (.tables earlier last)) :
    last.Distinct :=
  distinct.all_entries last (List.mem_append_right _ List.mem_cons_self)

theorem with_last {earlier : List Entries} {last : Entries}
    (distinct : Distinct (.tables earlier last)) {last' : Entries} (lastDistinct : last'.Distinct) :
    Distinct (.tables earlier last') := by
  apply of_tables
  rw [List.forall_mem_append, List.forall_mem_singleton]
  exact ⟨fun entries member => distinct.all_entries entries (List.mem_append_left _ member),
    lastDistinct⟩

/-- The elements of a sequence are as distinct as the sequence. -/
theorem of_mem_elements? {value : Value} (distinct : value.Distinct) {elements : List Value}
    (isSequence : value.elements? = some elements) {element : Value} (member : element ∈ elements) :
    element.Distinct := by
  cases value with
  | array values =>
      cases isSequence
      cases distinct with
      | array each => exact each element member
  | tables earlier last =>
      cases isSequence
      rcases List.mem_map.1 member with ⟨inner, among, rfl⟩
      exact of_entries (distinct.all_entries inner among) .header
  | _ => cases isSequence

theorem of_entries? {value : Value} (distinct : value.Distinct) {entries : Entries}
    (isTable : value.entries? = some entries) : entries.Distinct := by
  cases value with
  | table origin inner =>
      cases isTable
      exact distinct.entries
  | moment moment =>
      cases isTable
      exact ⟨List.nodup_nil, by simp⟩
  | _ => cases isTable

end Value.Distinct

/-! ## Operations on entries -/

namespace Entries

variable {entries result : Entries}

theorem distinct_nil : Entries.Distinct [] :=
  ⟨List.nodup_nil, by simp⟩

namespace Distinct

variable (distinct : entries.Distinct)
include distinct

theorem of_find? {key : String} {value : Value} (found : entries.find? key = some value) :
    value.Distinct :=
  distinct.each _ (mem_of_find? found)

theorem append_singleton {key : String} (absent : entries.find? key = none) {value : Value}
    (valueDistinct : value.Distinct) : Entries.Distinct (entries ++ [(key, value)]) := by
  constructor
  · rw [keys_append, keys_cons, keys_nil, ← List.concat_eq_append]
    exact List.Nodup.concat (find?_eq_none_iff.1 absent) distinct.keys
  · rw [List.forall_mem_append, List.forall_mem_singleton]
    exact ⟨distinct.each, valueDistinct⟩

theorem erase (key : String) : Entries.Distinct (entries.erase key) := by
  constructor
  · exact (List.filter_sublist.map Prod.fst).nodup distinct.keys
  · intro entry member
    exact distinct.each entry (List.mem_of_mem_filter member)

/-- A change keeps keys apart if what it puts in the place of a value does. -/
theorem change {key : String} {edit : Option Value → Option Value}
    (edits : ∀ value, edit (entries.find? key) = some value → value.Distinct)
    (changed : entries.change key edit = some result) : result.Distinct := by
  constructor
  · rw [keys_change changed]
    exact Mention.nodup_note distinct.keys _
  · intro entry member
    rcases mem_change changed member with before | edited
    · exact distinct.each entry before
    · exact edits _ edited

theorem add {name : String} {value : Value} (valueDistinct : value.Distinct)
    (added : Entries.add name value entries = some result) : result.Distinct := by
  rcases add_eq_some_iff.1 added with ⟨absent, rfl⟩
  exact distinct.append_singleton absent valueDistinct

theorem assign {name : String} {value : Value} (valueDistinct : value.Distinct)
    {parents : List String} (assigned : Entries.assign name value parents entries = some result) :
    result.Distinct := by
  induction parents generalizing entries result with
  | nil => exact distinct.add valueDistinct assigned
  | cons parent beyond ih =>
      rw [Entries.assign] at assigned
      refine distinct.change ?_ assigned
      intro value' edited
      cases found : entries.find? parent with
      | none =>
          rw [found] at edited
          rcases Option.map_eq_some_iff.1 edited with ⟨inner, assigned, rfl⟩
          exact .of_entries (ih distinct_nil assigned) .dotted
      | some value =>
          rw [found] at edited
          have valueDistinct := distinct.of_find? found
          cases value with
          | table origin inner =>
              simp only at edited
              split at edited
              case isTrue =>
                rcases Option.map_eq_some_iff.1 edited with ⟨inner', assigned, rfl⟩
                exact .of_entries (ih valueDistinct.entries assigned) origin
              case isFalse => cases edited
          | tables earlier last =>
              simp only at edited
              split at edited
              case isTrue => cases edited
              case isFalse =>
                rcases Option.map_eq_some_iff.1 edited with ⟨last', assigned, rfl⟩
                exact valueDistinct.with_last (ih valueDistinct.last assigned)
          | _ => cases edited

theorem assignAll {assignments : List Assignment}
    (values : ∀ assignment ∈ assignments, assignment.value.Distinct)
    (assigned : entries.assignAll assignments = some result) : result.Distinct := by
  refine foldlM_preserves ?_ distinct assigned
  intro assignment member before after done beforeDistinct
  exact beforeDistinct.assign (values assignment member) done

theorem within {edit : Entries → Option Entries}
    (edits : ∀ inner inner', Entries.Distinct inner → edit inner = some inner' →
      Entries.Distinct inner')
    {parents : List String} (changed : entries.within edit parents = some result) :
    result.Distinct := by
  induction parents generalizing entries result with
  | nil => exact edits entries result distinct changed
  | cons parent beyond ih =>
      rw [Entries.within] at changed
      refine distinct.change ?_ changed
      intro value' edited
      cases found : entries.find? parent with
      | none =>
          rw [found] at edited
          rcases Option.map_eq_some_iff.1 edited with ⟨inner, changed, rfl⟩
          exact .of_entries (ih distinct_nil changed) .implied
      | some value =>
          rw [found] at edited
          have valueDistinct := distinct.of_find? found
          cases value with
          | table origin inner =>
              cases origin with
              | inline => cases edited
              | _ =>
                  rcases Option.map_eq_some_iff.1 edited with ⟨inner', changed, rfl⟩
                  exact .of_entries (ih valueDistinct.entries changed) _
          | tables earlier last =>
              rcases Option.map_eq_some_iff.1 edited with ⟨last', changed, rfl⟩
              exact valueDistinct.with_last (ih valueDistinct.last changed)
          | _ => cases edited

section Sections

variable {assignments : List Assignment}
  (values : ∀ assignment ∈ assignments, assignment.value.Distinct)
include values

theorem openTable {name : String} (opened : entries.openTable name assignments = some result) :
    result.Distinct := by
  rcases openTable_eq_some_iff.1 opened with ⟨before, inner, found, filled, rfl⟩
  have beforeDistinct : Entries.Distinct before := by
    rcases found with ⟨-, rfl⟩ | implied
    · exact distinct_nil
    · exact (distinct.of_find? implied).entries
  apply (distinct.erase name).append_singleton
  · rw [find?_eq_none_iff, keys_erase]
    simp
  · exact .of_entries (beforeDistinct.assignAll values filled) .header

theorem openElement {name : String} (opened : entries.openElement name assignments = some result) :
    result.Distinct := by
  rcases Option.bind_eq_some_iff.1 opened with ⟨inner, filled, changed⟩
  have innerDistinct := distinct_nil.assignAll values filled
  refine distinct.change ?_ changed
  intro value edited
  cases found : entries.find? name with
  | none =>
      rw [found] at edited
      cases edited
      apply Value.Distinct.of_tables
      simpa using innerDistinct
  | some before =>
      rw [found] at edited
      have beforeDistinct := distinct.of_find? found
      cases before with
      | tables earlier last =>
          cases edited
          apply Value.Distinct.of_tables
          rw [List.forall_mem_append, List.forall_mem_singleton]
          exact ⟨beforeDistinct.all_entries, innerDistinct⟩
      | _ => cases edited

end Sections

theorem addSection {added : Section}
    (values : ∀ assignment ∈ added.assignments, assignment.value.Distinct)
    (done : entries.addSection added = some result) : result.Distinct := by
  rcases added with ⟨header, assignments⟩
  cases header with
  | table key =>
      exact distinct.within (fun _ _ inner opened => inner.openTable values opened) done
  | element key =>
      exact distinct.within (fun _ _ inner opened => inner.openElement values opened) done

theorem addSections {sections : List Section}
    (values : ∀ added ∈ sections, ∀ assignment ∈ added.assignments, assignment.value.Distinct)
    (done : sections.foldlM Entries.addSection entries = some result) : result.Distinct := by
  refine foldlM_preserves ?_ distinct done
  intro added member before after step beforeDistinct
  exact beforeDistinct.addSection (values added member) step

end Distinct

end Entries

/-! ## Values that are read -/

namespace Value

theorem IsScalar.distinct {value : Value} (scalar : value.IsScalar) : value.Distinct := by
  cases scalar with
  | string text => exact .string text
  | integer number => exact .integer number
  | float number => exact .float number
  | truth truth => exact .truth truth
  | moment moment => exact .moment moment

/-- A reader gives only values without a key twice. -/
def ReadsDistinct (reader : Reader Value) : Prop :=
  ∀ text value rest, reader text = some (value, rest) → value.Distinct

theorem distinct_of_assignment {reader : Reader Value} (reads : ReadsDistinct reader)
    {text rest : List Char} {assignment : Assignment}
    (read : Assignment.read reader text = some (assignment, rest)) : assignment.value.Distinct := by
  rcases Assignment.exists_of_read read with ⟨front, behind, -, valueRead⟩
  exact reads _ _ _ valueRead

theorem distinct_of_elements {reader : Reader Value} (reads : ReadsDistinct reader)
    {text rest : List Char} {values : List Value}
    (read : elements reader text = some (values, rest)) : ∀ value ∈ values, value.Distinct := by
  intro value member
  rcases exists_of_mem_elements read member with ⟨front, behind, valueRead, -⟩
  exact reads _ _ _ valueRead

theorem distinct_of_inlineEntries {reader : Reader Value} (reads : ReadsDistinct reader)
    {text rest : List Char} {entries : Entries}
    (read : inlineEntries reader text = some (entries, rest)) : entries.Distinct := by
  rcases Option.bind_eq_some_iff.1 read with ⟨behind, -, read⟩
  rcases Option.bind_eq_some_iff.1 read with ⟨same, assigned, ⟨⟩⟩
  refine Entries.distinct_nil.assignAll ?_ assigned
  intro assignment member
  rcases Reader.exists_of_mem_separated member with ⟨front, behind', read, -⟩
  rcases Option.map_eq_some_iff.1 read with ⟨⟨same, behind''⟩, assignmentRead, ⟨⟩⟩
  exact distinct_of_assignment reads assignmentRead

theorem readsDistinct_readWithin (depth : Nat) : ReadsDistinct (readWithin depth) := by
  induction depth with
  | zero => exact fun text value rest read => (isScalar_of_scalar read).distinct
  | succ depth ih =>
      intro text value rest read
      unfold readWithin at read
      split at read
      case h_1 =>
        rcases Option.map_eq_some_iff.1 read with ⟨⟨values, behind⟩, elementsRead, ⟨⟩⟩
        exact .array (distinct_of_elements ih elementsRead)
      case h_2 =>
        rcases Option.map_eq_some_iff.1 read with ⟨⟨entries, behind⟩, entriesRead, ⟨⟩⟩
        exact .of_entries (distinct_of_inlineEntries ih entriesRead) .inline
      case h_3 => exact (isScalar_of_scalar read).distinct

end Value

/-! ## Documents -/

/-- No table of a document holds a key twice. -/
theorem distinct_of_parse? {text : List Char} {entries : Entries}
    (valid : parse? text = some entries) : entries.Distinct := by
  rcases exists_body_of_parse? valid with ⟨body, written, gives⟩
  rcases Option.bind_eq_some_iff.1 gives with ⟨first, assigned, added⟩
  have distinct {assignment : Assignment} (read : assignment.IsReadIn text) :
      assignment.value.Distinct := by
    rcases read with ⟨front, behind, -, read⟩
    exact Value.readsDistinct_readWithin _ _ _ _ read
  have firstDistinct := Entries.distinct_nil.assignAll
    (fun assignment member => distinct (body_assignments_isReadIn written assignment member))
    assigned
  exact firstDistinct.addSections
    (fun part among assignment member =>
      distinct (body_sections_isReadIn written part among assignment member)) added

end DeviceFlags.Toml
