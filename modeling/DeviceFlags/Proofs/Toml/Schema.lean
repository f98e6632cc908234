import DeviceFlags.Proofs.Toml.Entries
import DeviceFlags.Toml.Schema
import Mathlib.Data.List.Forall2

/-!
# What a schema accepts and what it reports

One equivalence for each way to ask for a value: what is accepted, and which
error is reported where nothing is.  Lists are checked from the front, so the
error is that of the first element that does not fit.
-/

namespace DeviceFlags.Toml

/-! ## One after another -/

section MapM

variable {α β ε : Type} {f : α → Except ε β}

theorem bind_eq_ok_iff {first : Except ε α} {result : β} :
    (first >>= f) = .ok result ↔ ∃ value, first = .ok value ∧ f value = .ok result := by
  cases first with
  | error error => exact ⟨nofun, nofun⟩
  | ok value =>
      constructor
      · intro succeeded
        exact ⟨value, rfl, succeeded⟩
      · rintro ⟨same, ⟨⟩, succeeded⟩
        exact succeeded

theorem bind_eq_error_iff {first : Except ε α} {error : ε} :
    (first >>= f) = .error error ↔
      first = .error error ∨ ∃ value, first = .ok value ∧ f value = .error error := by
  cases first with
  | error other =>
      constructor
      · intro failed
        cases failed
        exact Or.inl rfl
      · rintro (⟨⟨⟩⟩ | ⟨_, ⟨⟩, _⟩)
        rfl
  | ok value =>
      constructor
      · intro failed
        exact Or.inr ⟨value, rfl, failed⟩
      · rintro (⟨⟨⟩⟩ | ⟨same, ⟨⟩, failed⟩)
        exact failed

theorem mapM_eq_ok_iff {xs : List α} {ys : List β} :
    xs.mapM f = .ok ys ↔ List.Forall₂ (fun x y => f x = .ok y) xs ys := by
  induction xs generalizing ys with
  | nil => cases ys <;> simp [pure, Except.pure]
  | cons x xs ih =>
      rw [List.mapM_cons, bind_eq_ok_iff, List.forall₂_cons_left_iff]
      constructor
      · rintro ⟨y, first, rest⟩
        rcases bind_eq_ok_iff.1 rest with ⟨others, later, ⟨⟩⟩
        exact ⟨y, others, first, ih.1 later, rfl⟩
      · rintro ⟨y, others, first, later, rfl⟩
        exact ⟨y, first, bind_eq_ok_iff.2 ⟨others, ih.2 later, rfl⟩⟩

/-- The first element that fails decides. -/
theorem mapM_eq_error_iff {xs : List α} {error : ε} :
    xs.mapM f = .error error ↔
      ∃ before bad after, xs = before ++ bad :: after ∧
        (∀ x ∈ before, ∃ y, f x = .ok y) ∧ f bad = .error error := by
  induction xs with
  | nil => simp [pure, Except.pure]
  | cons x xs ih =>
      rw [List.mapM_cons, bind_eq_error_iff]
      constructor
      · rintro (failed | ⟨y, succeeded, failed⟩)
        · exact ⟨[], x, xs, rfl, by simp, failed⟩
        · rcases bind_eq_error_iff.1 failed with later | ⟨_, _, ⟨⟩⟩
          rcases ih.1 later with ⟨before, bad, after, rfl, fine, failed⟩
          exact ⟨x :: before, bad, after, rfl, by simpa using ⟨⟨y, succeeded⟩, fine⟩, failed⟩
      · rintro ⟨before, bad, after, split, fine, failed⟩
        cases before with
        | nil =>
            cases split
            exact Or.inl failed
        | cons first before =>
            cases split
            rw [List.forall_mem_cons] at fine
            rcases fine.1 with ⟨y, succeeded⟩
            refine Or.inr ⟨y, succeeded, bind_eq_error_iff.2 (Or.inl ?_)⟩
            exact ih.2 ⟨before, bad, after, rfl, fine.2, failed⟩

theorem option_mapM_eq_ok_iff {x : Option α} {y : Option β} :
    x.mapM f = .ok y ↔ Option.Rel (fun x y => f x = .ok y) x y := by
  cases x with
  | none => cases y <;> simp [pure, Except.pure]
  | some x =>
      rw [Option.mapM_some]
      cases result : f x <;> cases y <;> simp [Functor.map, Except.map, result]

end MapM

/-! ## Values -/

namespace Value

/-- A value is a text. -/
def IsText (value : Value) : Prop :=
  ∃ text, value = .string text

/-- A value is a truth value. -/
def IsTruth (value : Value) : Prop :=
  ∃ truth, value = .truth truth

variable {value : Value} {error : SchemaError}

@[simp] theorem text_eq_ok_iff {text : String} : value.text = .ok text ↔ value = .string text := by
  cases value <;> simp [Value.text]

theorem text_eq_error_iff :
    value.text = .error error ↔ ¬value.IsText ∧ error = .wrongKind value .text := by
  cases value <;> simp [Value.text, IsText, eq_comm]

@[simp] theorem asTruth_eq_ok_iff {truth : Bool} :
    value.asTruth = .ok truth ↔ value = .truth truth := by
  cases value <;> simp [asTruth]

theorem asTruth_eq_error_iff :
    value.asTruth = .error error ↔ ¬value.IsTruth ∧ error = .wrongKind value .truth := by
  cases value <;> simp [asTruth, IsTruth, eq_comm]

theorem asSequence_eq_ok_iff {elements : List Value} :
    value.asSequence = .ok elements ↔ value.elements? = some elements := by
  unfold asSequence
  cases value.elements? <;> simp

theorem asSequence_eq_error_iff :
    value.asSequence = .error error ↔
      value.elements? = none ∧ error = .wrongKind value .sequence := by
  unfold asSequence
  cases value.elements? <;> simp [eq_comm]

/-! ### Records -/

section Record

variable {α : Type} {name : String} {ofEntries : Entries → Except SchemaError α}
  {ofElements : List Value → Except SchemaError α}

theorem entries?_of_elements {elements : List Value} (isArray : value.elements? = some elements) :
    value.entries? = none := by
  cases value <;> simp_all [elements?, entries?]

/-- Only a table has entries with a key. -/
theorem eq_table_of_entries? {entries : Entries} {key : String} {found : Value}
    (isTable : value.entries? = some entries) (present : entries.find? key = some found) :
    ∃ origin, value = .table origin entries := by
  cases value with
  | table origin inner =>
      cases isTable
      exact ⟨origin, rfl⟩
  | moment moment =>
      cases isTable
      cases present
  | _ => cases isTable

/-- Only an array begins with a text. -/
theorem eq_array_of_elements? {text : String} {more : List Value}
    (isSequence : value.elements? = some (.string text :: more)) :
    value = .array (.string text :: more) := by
  cases value with
  | array values =>
      cases isSequence
      rfl
  | tables earlier last =>
      have member : Value.string text ∈ (earlier ++ [last]).map (.table .header) := by
        rw [Option.some.inj isSequence]
        exact List.mem_cons_self
      rcases List.mem_map.1 member with ⟨inner, _, impossible⟩
      cases impossible
  | _ => cases isSequence

theorem asRecord_of_entries {entries : Entries} (isTable : value.entries? = some entries) :
    value.asRecord name ofEntries ofElements = ofEntries entries := by
  rw [asRecord, isTable]

theorem asRecord_of_elements {elements : List Value} (isArray : value.elements? = some elements) :
    value.asRecord name ofEntries ofElements = ofElements elements := by
  rw [asRecord, isArray, entries?_of_elements isArray]

theorem asRecord_of_neither (noTable : value.entries? = none) (noArray : value.elements? = none) :
    value.asRecord name ofEntries ofElements = .error (.wrongKind value (.record name)) := by
  rw [asRecord, noTable, noArray]

/-- A record is read from a table, from an array, or not at all. -/
theorem asRecord_eq_iff {result : Except SchemaError α} :
    value.asRecord name ofEntries ofElements = result ↔
      (∃ entries, value.entries? = some entries ∧ ofEntries entries = result) ∨
      (∃ elements, value.elements? = some elements ∧ ofElements elements = result) ∨
      (value.entries? = none ∧ value.elements? = none ∧
        .error (.wrongKind value (.record name)) = result) := by
  cases isTable : value.entries? with
  | some entries =>
      have noArray : value.elements? = none := by
        cases isArray : value.elements? with
        | none => rfl
        | some elements =>
            rw [entries?_of_elements isArray] at isTable
            contradiction
      simp [asRecord_of_entries isTable, noArray]
  | none =>
      cases isArray : value.elements? with
      | some elements => simp [asRecord_of_elements isArray]
      | none => simp [asRecord_of_neither isTable isArray]

end Record

end Value

/-! ## Entries -/

namespace Entries

variable {entries : Entries} {accept : String → Value → Except SchemaError Unit}
  {error : SchemaError}

theorem check_eq_mapM :
    entries.check accept =
      (entries.mapM fun entry => accept entry.1 entry.2).map fun _ => () := by
  induction entries with
  | nil => rfl
  | cons entry rest ih =>
      rcases entry with ⟨key, value⟩
      rw [check, List.mapM_cons]
      cases accept key value with
      | error error => rfl
      | ok done =>
          simp only [ih]
          cases rest.mapM fun entry => accept entry.1 entry.2 <;> rfl

theorem check_eq_ok_iff :
    entries.check accept = .ok () ↔ ∀ entry ∈ entries, accept entry.1 entry.2 = .ok () := by
  induction entries with
  | nil => simp [check]
  | cons entry rest ih =>
      rcases entry with ⟨key, value⟩
      rw [check, List.forall_mem_cons, ← ih]
      cases accept key value <;> simp

/-- The first entry that fails decides. -/
theorem check_eq_error_iff :
    entries.check accept = .error error ↔
      ∃ before wrong after, entries = before ++ wrong :: after ∧
        (∀ entry ∈ before, accept entry.1 entry.2 = .ok ()) ∧
        accept wrong.1 wrong.2 = .error error := by
  have failed : entries.check accept = .error error ↔
      (entries.mapM fun entry => accept entry.1 entry.2) = .error error := by
    rw [check_eq_mapM]
    cases entries.mapM fun entry => accept entry.1 entry.2 <;> simp [Except.map]
  rw [failed, mapM_eq_error_iff]
  simp only [Unique.exists_iff, PUnit.default_eq_unit]

theorem idxOf_lt_of_split {before after : List String} {key other : String}
    (first : key ∉ before) (notBefore : other ∉ before) (different : other ≠ key) :
    (before ++ key :: after).idxOf key < (before ++ key :: after).idxOf other := by
  rw [List.idxOf_append_of_notMem first, List.idxOf_append_of_notMem notBefore,
    List.idxOf_cons_self, List.idxOf_cons_ne _ (Ne.symm different)]
  omega

/-- The entry that fails decides that stands before all others that do. -/
theorem check_eq_error_iff_first (distinct : entries.keys.Nodup) :
    entries.check accept = .error error ↔
      ∃ key value, entries.find? key = some value ∧ accept key value = .error error ∧
        ∀ other otherValue otherError, entries.find? other = some otherValue →
          accept other otherValue = .error otherError → other ≠ key →
            entries.keys.idxOf key < entries.keys.idxOf other := by
  have first_of_error {error : SchemaError} (failed : entries.check accept = .error error) :
      ∃ key value, entries.find? key = some value ∧ accept key value = .error error ∧
        ∀ other otherValue otherError, entries.find? other = some otherValue →
          accept other otherValue = .error otherError → other ≠ key →
            entries.keys.idxOf key < entries.keys.idxOf other := by
    rcases check_eq_error_iff.1 failed with ⟨before, ⟨key, value⟩, after, rfl, passed, failed⟩
    refine ⟨key, value, find?_of_mem distinct (by simp), failed, ?_⟩
    intro other otherValue otherError found otherFailed different
    have notBefore : other ∉ Entries.keys before := by
      intro member
      rcases List.mem_map.1 member with ⟨⟨_, value'⟩, among, rfl⟩
      have found' := find?_of_mem distinct (List.mem_append_left _ among)
      cases found.symm.trans found'
      cases otherFailed.symm.trans (passed _ among)
    rw [keys_append, keys_cons] at distinct ⊢
    have notMem : key ∉ Entries.keys before := by
      intro member
      exact (List.nodup_append.1 distinct).2.2 key member key List.mem_cons_self rfl
    exact idxOf_lt_of_split notMem notBefore different
  constructor
  · exact first_of_error
  · rintro ⟨key, value, found, failed, first⟩
    cases checked : entries.check accept with
    | ok done =>
        have passed := check_eq_ok_iff.1 checked _ (mem_of_find? found)
        cases passed.symm.trans failed
    | error error' =>
        rcases first_of_error checked with ⟨key', value', found', failed', first'⟩
        by_cases same : key' = key
        · subst same
          cases found.symm.trans found'
          cases failed.symm.trans failed'
          rfl
        · have before := first key' value' error' found' failed' same
          have behind := first' key value error found failed (Ne.symm same)
          omega

theorem require_eq_ok_iff {field : String} {value : Value} :
    entries.require field = .ok value ↔ entries.find? field = some value := by
  unfold require
  cases entries.find? field <;> simp

theorem require_eq_error_iff {field : String} :
    entries.require field = .error error ↔
      entries.find? field = none ∧ error = .missing field := by
  unfold require
  cases entries.find? field <;> simp [eq_comm]

end Entries

/-! ## What a record is read from -/

namespace Entries

/-- The entries under some keys. -/
def only (entries : Entries) (fields : List String) : Entries :=
  entries.filter fun entry => fields.contains entry.1

variable {entries : Entries} {fields : List String}

theorem find?_only {field : String} (asked : field ∈ fields) :
    (entries.only fields).find? field = entries.find? field :=
  find?_filter fields.contains (List.contains_iff_mem.2 asked)

theorem require_only {field : String} (asked : field ∈ fields) :
    (entries.only fields).require field = entries.require field := by
  rw [require, require, find?_only asked]

/-- A check that lets other keys pass looks at its own keys alone. -/
theorem check_only {accept : String → Value → Except SchemaError Unit}
    (passes : ∀ key value, key ∉ fields → accept key value = .ok ()) :
    (entries.only fields).check accept = entries.check accept := by
  induction entries with
  | nil => rfl
  | cons entry rest ih =>
      rcases entry with ⟨name, value⟩
      by_cases kept : name ∈ fields
      · have cons : Entries.only ((name, value) :: rest) fields =
            (name, value) :: Entries.only rest fields := by
          simp [only, kept]
        rw [cons, check, check, ih]
      · have dropped : Entries.only ((name, value) :: rest) fields = Entries.only rest fields := by
          simp [only, kept]
        rw [dropped, check, passes name value kept, ih]

end Entries

/-- The part of a value that a record with some fields is read from: the entries
under its fields, or as many elements as it has fields. -/
def Value.part (value : Value) (fields : List String) : Value :=
  match value.entries?, value.elements? with
  | some entries, _ => .table .header (entries.only fields)
  | none, some elements => .array (elements.take fields.length)
  | none, none => value

theorem Value.asRecord_part {α : Type} {name : String} {fields : List String}
    {ofEntries : Entries → Except SchemaError α} {ofElements : List Value → Except SchemaError α}
    (onlyFields : ∀ entries : Entries, ofEntries (entries.only fields) = ofEntries entries)
    (firstElements : ∀ elements, ofElements (elements.take fields.length) = ofElements elements)
    (value : Value) :
    (value.part fields).asRecord name ofEntries ofElements =
      value.asRecord name ofEntries ofElements := by
  cases isTable : value.entries? with
  | some entries =>
      have isPart : (value.part fields).entries? = some (entries.only fields) := by
        rw [part, isTable]
        rfl
      rw [asRecord_of_entries isTable, asRecord_of_entries isPart, onlyFields]
  | none =>
      cases isArray : value.elements? with
      | some elements =>
          have isPart : (value.part fields).elements? = some (elements.take fields.length) := by
            rw [part, isTable, isArray]
            rfl
          rw [asRecord_of_elements isArray, asRecord_of_elements isPart, firstElements]
      | none =>
          have same : value.part fields = value := by
            rw [part, isTable, isArray]
          rw [same]

/-- Entries of which each value is left with a part of it. -/
def Entries.eachPart (entries : Entries) (fields : String → List String) : Entries :=
  entries.map fun entry => (entry.1, entry.2.part (fields entry.1))

namespace Entries

variable {entries : Entries} {fields : String → List String}

theorem find?_eachPart (key : String) :
    (entries.eachPart fields).find? key = (entries.find? key).map (·.part (fields key)) := by
  induction entries with
  | nil => rfl
  | cons entry rest ih =>
      rcases entry with ⟨name, value⟩
      rw [eachPart, List.map_cons, ← eachPart]
      by_cases same : name = key
      · subst same
        rw [find?_cons_self, find?_cons_self]
        rfl
      · rw [find?_cons_of_ne same, find?_cons_of_ne same, ih]

theorem check_eachPart {accept : String → Value → Except SchemaError Unit}
    (same : ∀ key value, accept key (value.part (fields key)) = accept key value) :
    (entries.eachPart fields).check accept = entries.check accept := by
  induction entries with
  | nil => rfl
  | cons entry rest ih =>
      rcases entry with ⟨key, value⟩
      rw [eachPart, List.map_cons, ← eachPart, check, check, same, ih]

end Entries

/-- The part of a sequence that records with some fields are read from: that of
each element. -/
def Value.eachPart (value : Value) (fields : List String) : Value :=
  match value.elements? with
  | some elements => .array (elements.map (·.part fields))
  | none => value

theorem Value.asSequence_eachPart (value : Value) (fields : List String) :
    (value.eachPart fields).asSequence = value.asSequence.map (·.map (·.part fields)) := by
  cases isSequence : value.elements? with
  | some elements =>
      have isPart : (value.eachPart fields).elements? = some (elements.map (·.part fields)) := by
        rw [eachPart, isSequence]
        rfl
      rw [asSequence_eq_ok_iff.2 isSequence, asSequence_eq_ok_iff.2 isPart]
      rfl
  | none =>
      have same : value.eachPart fields = value := by
        rw [eachPart, isSequence]
      rw [same, asSequence_eq_error_iff.2 ⟨isSequence, rfl⟩]
      rfl

/-! ## Texts -/

section ReadText

variable {α : Type} {schema : Entries → Except SchemaError α} {text : String} {entries : Entries}
  (valid : parse? text.toList = some entries)
include valid

theorem readText_of_parse? : readText schema text = (schema entries).mapError .schema := by
  rw [readText, valid]

theorem readText_eq_ok_iff {value : α} :
    readText schema text = .ok value ↔ schema entries = .ok value := by
  rw [readText_of_parse? valid]
  cases schema entries <;> simp [Except.mapError]

theorem readText_eq_error_iff {error : ReadError} :
    readText schema text = .error error ↔
      ∃ reason, error = .schema reason ∧ schema entries = .error reason := by
  rw [readText_of_parse? valid]
  cases schema entries <;> simp [Except.mapError, eq_comm]

end ReadText

end DeviceFlags.Toml
