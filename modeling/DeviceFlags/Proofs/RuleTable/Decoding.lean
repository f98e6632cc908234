import DeviceFlags.Proofs.Toml.Elements
import DeviceFlags.Proofs.Toml.Inline
import DeviceFlags.Proofs.Toml.Schema
import DeviceFlags.RuleTable.Toml
import Mathlib

/-!
# What documents hold rules

How rules are written in a document, and what is reported of a document in which
they are not.  A rule is a table with two texts or an array that begins with two
texts.  Of several mistakes the first one is reported, where what is wrong in a
table counts before what is missing.
-/

namespace DeviceFlags

open Toml (Entries Value SchemaError ReadError)

namespace Rule

/-- The fields of a rule, in their order in an array. -/
def fields : List String := ["device", "flag"]

/-- How a rule is written. -/
inductive Written : Value → Rule → Prop where
  | table {origin : Toml.Origin} {entries : Entries} {rule : Rule}
      (device : entries.find? "device" = some (.string rule.device))
      (flag : entries.find? "flag" = some (.string rule.flag)) :
      Written (.table origin entries) rule
  | array {rule : Rule} {more : List Value} :
      Written (.array (.string rule.device :: .string rule.flag :: more)) rule

/-- All fields that entries have are texts. -/
def AllTexts (entries : Entries) : Prop :=
  ∀ entry ∈ entries, entry.1 ∈ fields → entry.2.IsText

/-- What is reported of a table that is no rule. -/
inductive MisfitTable (entries : Entries) : SchemaError → Prop where
  /-- The first field that is no text, whatever is missing. -/
  | field {before after : Entries} {key : String} {wrong : Value}
      (split : entries = before ++ (key, wrong) :: after) (asked : key ∈ fields)
      (earlier : AllTexts before) (noText : ¬wrong.IsText) :
      MisfitTable entries (.wrongKind wrong .text)
  | noDevice (texts : AllTexts entries) (absent : entries.find? "device" = none) :
      MisfitTable entries (.missing "device")
  | noFlag (texts : AllTexts entries) {device : Value}
      (present : entries.find? "device" = some device) (absent : entries.find? "flag" = none) :
      MisfitTable entries (.missing "flag")

/-- What is reported of an array that is no rule. -/
inductive MisfitArray : List Value → SchemaError → Prop where
  | empty : MisfitArray [] (.tooFew 0 recordName 2)
  | device {wrong : Value} {more : List Value} (noText : ¬wrong.IsText) :
      MisfitArray (wrong :: more) (.wrongKind wrong .text)
  | noFlag {device : String} : MisfitArray [.string device] (.tooFew 1 recordName 2)
  | flag {device : String} {wrong : Value} {more : List Value} (noText : ¬wrong.IsText) :
      MisfitArray (.string device :: wrong :: more) (.wrongKind wrong .text)

/-- What is reported of a value that is no rule.  A date or time counts as a table
without entries. -/
inductive Misfit (value : Value) : SchemaError → Prop where
  | table {entries : Entries} {reason : SchemaError} (isTable : value.entries? = some entries)
      (misfit : MisfitTable entries reason) : Misfit value reason
  | array {elements : List Value} {reason : SchemaError}
      (isArray : value.elements? = some elements) (misfit : MisfitArray elements reason) :
      Misfit value reason
  | scalar (noTable : value.entries? = none) (noArray : value.elements? = none) :
      Misfit value (.wrongKind value (.record recordName))

/-! ## From a table -/

theorem checkField_eq_ok_iff {key : String} {value : Value} :
    checkField key value = .ok () ↔ (key ∈ fields → value.IsText) := by
  unfold checkField
  by_cases asked : key ∈ fields
  · have isField : key = "device" ∨ key = "flag" := by simpa [fields] using asked
    rw [if_pos isField]
    cases value <;> simp [asked, Value.text, Value.IsText, Except.map]
  · have notField : ¬(key = "device" ∨ key = "flag") := by simpa [fields] using asked
    simp [if_neg notField, asked]

theorem checkField_eq_error_iff {key : String} {value : Value} {reason : SchemaError} :
    checkField key value = .error reason ↔
      key ∈ fields ∧ ¬value.IsText ∧ reason = .wrongKind value .text := by
  unfold checkField
  by_cases asked : key ∈ fields
  · have isField : key = "device" ∨ key = "flag" := by simpa [fields] using asked
    rw [if_pos isField]
    cases value <;> simp [asked, Value.text, Value.IsText, Except.map, eq_comm]
  · have notField : ¬(key = "device" ∨ key = "flag") := by simpa [fields] using asked
    simp [if_neg notField, asked]

section Table

variable {entries : Entries}

theorem check_eq_ok_iff_allTexts : entries.check checkField = .ok () ↔ AllTexts entries := by
  rw [Entries.check_eq_ok_iff]
  simp only [checkField_eq_ok_iff, AllTexts]

theorem AllTexts.isText_of_find? (texts : AllTexts entries) {field : String}
    (asked : field ∈ fields) {value : Value} (found : entries.find? field = some value) :
    value.IsText :=
  texts _ (Entries.mem_of_find? found) asked

/-- What the fields give once no field that is there is wrong. -/
theorem ofEntries_of_allTexts (texts : AllTexts entries) :
    ofEntries entries = do
      let device ← (← entries.require "device").text
      let flag ← (← entries.require "flag").text
      return ⟨device, flag⟩ := by
  rw [ofEntries, check_eq_ok_iff_allTexts.2 texts]
  rfl

theorem ofEntries_eq_ok_iff (distinct : entries.Distinct) {rule : Rule} :
    ofEntries entries = .ok rule ↔
      entries.find? "device" = some (.string rule.device) ∧
        entries.find? "flag" = some (.string rule.flag) := by
  constructor
  · intro decoded
    rcases Toml.bind_eq_ok_iff.1 decoded with ⟨_, -, decoded⟩
    rcases Toml.bind_eq_ok_iff.1 decoded with ⟨value, found, decoded⟩
    rcases Toml.bind_eq_ok_iff.1 decoded with ⟨device, isText, decoded⟩
    rcases Toml.bind_eq_ok_iff.1 decoded with ⟨value', found', decoded⟩
    rcases Toml.bind_eq_ok_iff.1 decoded with ⟨flag, isText', ⟨⟩⟩
    rw [Value.text_eq_ok_iff] at isText isText'
    rw [Entries.require_eq_ok_iff] at found found'
    rw [found, found', isText, isText']
    exact ⟨rfl, rfl⟩
  · rintro ⟨device, flag⟩
    have texts : AllTexts entries := by
      rintro ⟨key, value⟩ member asked
      have found := Entries.find?_of_mem distinct.keys member
      rcases (by simpa [fields] using asked : key = "device" ∨ key = "flag") with rfl | rfl
      · exact ⟨rule.device, by simpa [device] using found.symm⟩
      · exact ⟨rule.flag, by simpa [flag] using found.symm⟩
    rw [ofEntries_of_allTexts texts, Entries.require_eq_ok_iff.2 device,
      Entries.require_eq_ok_iff.2 flag]
    rfl

theorem ofEntries_eq_error_iff {reason : SchemaError} :
    ofEntries entries = .error reason ↔ MisfitTable entries reason := by
  constructor
  · intro refused
    rcases Toml.bind_eq_error_iff.1 refused with failed | ⟨_, passed, refused⟩
    · rcases Entries.check_eq_error_iff.1 failed with
        ⟨before, ⟨key, wrong⟩, after, split, earlier, failed⟩
      rcases checkField_eq_error_iff.1 failed with ⟨asked, noText, rfl⟩
      have earlier' : AllTexts before :=
        check_eq_ok_iff_allTexts.1 (Entries.check_eq_ok_iff.2 earlier)
      exact .field split asked earlier' noText
    have texts := check_eq_ok_iff_allTexts.1 passed
    -- A field that is there is a text by now, so what fails is that one is missing.
    rcases Toml.bind_eq_error_iff.1 refused with failed | ⟨device, found, refused⟩
    · rcases Entries.require_eq_error_iff.1 failed with ⟨absent, rfl⟩
      exact .noDevice texts absent
    rw [Entries.require_eq_ok_iff] at found
    rcases Toml.bind_eq_error_iff.1 refused with failed | ⟨_, -, refused⟩
    · exact absurd (texts.isText_of_find? (by decide) found) (Value.text_eq_error_iff.1 failed).1
    rcases Toml.bind_eq_error_iff.1 refused with failed | ⟨flag, found', refused⟩
    · rcases Entries.require_eq_error_iff.1 failed with ⟨absent, rfl⟩
      exact .noFlag texts found absent
    rw [Entries.require_eq_ok_iff] at found'
    rcases Toml.bind_eq_error_iff.1 refused with failed | ⟨_, -, ⟨⟩⟩
    exact absurd (texts.isText_of_find? (by decide) found') (Value.text_eq_error_iff.1 failed).1
  · intro misfit
    cases misfit with
    | @field before after key wrong split asked earlier noText =>
        have failed : entries.check checkField = .error (.wrongKind wrong .text) :=
          Entries.check_eq_error_iff.2 ⟨before, (key, wrong), after, split,
            Entries.check_eq_ok_iff.1 (check_eq_ok_iff_allTexts.2 earlier),
            checkField_eq_error_iff.2 ⟨asked, noText, rfl⟩⟩
        rw [ofEntries, failed]
        rfl
    | noDevice texts absent =>
        rw [ofEntries_of_allTexts texts, Entries.require_eq_error_iff.2 ⟨absent, rfl⟩]
        rfl
    | noFlag texts present absent =>
        rcases texts.isText_of_find? (by decide) present with ⟨device, rfl⟩
        rw [ofEntries_of_allTexts texts, Entries.require_eq_ok_iff.2 present,
          Entries.require_eq_error_iff.2 ⟨absent, rfl⟩]
        rfl

theorem ofEntries_only : ofEntries (entries.only fields) = ofEntries entries := by
  have passes (key : String) (value : Value) (other : key ∉ fields) :
      checkField key value = .ok () :=
    checkField_eq_ok_iff.2 fun asked => absurd asked other
  rw [ofEntries, ofEntries, Entries.check_only passes, Entries.require_only (by decide),
    Entries.require_only (by decide)]

end Table

/-! ## From an array -/

theorem ofElements_eq_ok_iff {elements : List Value} {rule : Rule} :
    ofElements elements = .ok rule ↔
      ∃ more, elements = .string rule.device :: .string rule.flag :: more := by
  constructor
  · intro decoded
    rcases elements with _ | ⟨first, _ | ⟨second, more⟩⟩
    · cases decoded
    · rcases Toml.bind_eq_ok_iff.1 decoded with ⟨_, -, ⟨⟩⟩
    · rcases Toml.bind_eq_ok_iff.1 decoded with ⟨device, isText, decoded⟩
      rcases Toml.bind_eq_ok_iff.1 decoded with ⟨flag, isText', ⟨⟩⟩
      rw [Value.text_eq_ok_iff.1 isText, Value.text_eq_ok_iff.1 isText']
      exact ⟨more, rfl⟩
  · rintro ⟨more, rfl⟩
    rfl

theorem ofElements_eq_error_iff {elements : List Value} {reason : SchemaError} :
    ofElements elements = .error reason ↔ MisfitArray elements reason := by
  constructor
  · intro refused
    rcases elements with _ | ⟨first, _ | ⟨second, more⟩⟩
    · cases refused
      exact .empty
    · rcases Toml.bind_eq_error_iff.1 refused with failed | ⟨device, isText, ⟨⟩⟩
      · rcases Value.text_eq_error_iff.1 failed with ⟨noText, rfl⟩
        exact .device noText
      · rw [Value.text_eq_ok_iff.1 isText]
        exact .noFlag
    · rcases Toml.bind_eq_error_iff.1 refused with failed | ⟨device, isText, refused⟩
      · rcases Value.text_eq_error_iff.1 failed with ⟨noText, rfl⟩
        exact .device noText
      rcases Toml.bind_eq_error_iff.1 refused with failed | ⟨flag, -, ⟨⟩⟩
      rcases Value.text_eq_error_iff.1 failed with ⟨noText, rfl⟩
      rw [Value.text_eq_ok_iff.1 isText]
      exact .flag noText
  · intro misfit
    cases misfit with
    | empty => rfl
    | @device wrong more noText =>
        have failed := Value.text_eq_error_iff.2 ⟨noText, rfl⟩
        cases more <;> rw [ofElements, failed] <;> rfl
    | noFlag => rfl
    | flag noText =>
        have failed := Value.text_eq_error_iff.2 ⟨noText, rfl⟩
        rw [ofElements, Value.text, failed]
        rfl

theorem ofElements_take (elements : List Value) :
    ofElements (elements.take fields.length) = ofElements elements := by
  rcases elements with _ | ⟨first, _ | ⟨second, more⟩⟩ <;> rfl

/-! ## From a value -/

section Values

variable {value : Value}

theorem ofValue_eq_ok_iff (distinct : value.Distinct) {rule : Rule} :
    ofValue value = .ok rule ↔ Written value rule := by
  rw [ofValue, Value.asRecord_eq_iff]
  constructor
  · rintro (⟨entries, isTable, decoded⟩ | ⟨elements, isArray, decoded⟩ | ⟨_, _, ⟨⟩⟩)
    · rcases (ofEntries_eq_ok_iff (distinct.of_entries? isTable)).1 decoded with ⟨device, flag⟩
      rcases Value.eq_table_of_entries? isTable device with ⟨origin, rfl⟩
      exact .table device flag
    · rcases ofElements_eq_ok_iff.1 decoded with ⟨more, rfl⟩
      rw [Value.eq_array_of_elements? isArray]
      exact .array
  · intro written
    cases written with
    | table device flag =>
        exact Or.inl ⟨_, rfl, (ofEntries_eq_ok_iff distinct.entries).2 ⟨device, flag⟩⟩
    | array => exact Or.inr (Or.inl ⟨_, rfl, rfl⟩)

theorem ofValue_eq_error_iff {reason : SchemaError} :
    ofValue value = .error reason ↔ Misfit value reason := by
  rw [ofValue, Value.asRecord_eq_iff]
  constructor
  · rintro (⟨entries, isTable, refused⟩ | ⟨elements, isArray, refused⟩ | ⟨noTable, noArray, ⟨⟩⟩)
    · exact .table isTable (ofEntries_eq_error_iff.1 refused)
    · exact .array isArray (ofElements_eq_error_iff.1 refused)
    · exact .scalar noTable noArray
  · intro misfit
    cases misfit with
    | table isTable misfit => exact Or.inl ⟨_, isTable, ofEntries_eq_error_iff.2 misfit⟩
    | array isArray misfit =>
        exact Or.inr (Or.inl ⟨_, isArray, ofElements_eq_error_iff.2 misfit⟩)
    | scalar noTable noArray => exact Or.inr (Or.inr ⟨noTable, noArray, rfl⟩)

theorem ofValue_part (value : Value) : ofValue (value.part fields) = ofValue value :=
  Value.asRecord_part (fun _ => ofEntries_only) ofElements_take value

end Values

end Rule

/-! ## Documents -/

namespace RuleTable

open Toml (Body Mention)

/-! ### The value of the key -/

/-- The table that a value holds. -/
def ofRules (value : Value) : Except SchemaError RuleTable := do
  let elements ← value.asSequence
  let rules ← elements.mapM Rule.ofValue
  return ⟨rules⟩

/-- What is reported of a value that holds no table. -/
inductive MisfitRules (value : Value) : SchemaError → Prop where
  | noSequence (noSequence : value.elements? = none) :
      MisfitRules value (.wrongKind value .sequence)
  /-- The first element that is no rule. -/
  | rule {bad : Value} {before after : List Value} {reason : SchemaError}
      (isSequence : value.elements? = some (before ++ bad :: after))
      (earlier : ∀ element ∈ before, ∃ rule, Rule.Written element rule)
      (misfit : Rule.Misfit bad reason) : MisfitRules value reason

section Value

variable {value : Value} (distinct : value.Distinct)
include distinct

theorem ofValue_eq_ok_iff_of_mem {elements : List Value}
    (isSequence : value.elements? = some elements) {element : Value} (member : element ∈ elements)
    {rule : Rule} : Rule.ofValue element = .ok rule ↔ Rule.Written element rule :=
  Rule.ofValue_eq_ok_iff (distinct.of_mem_elements? isSequence member)

theorem ofRules_eq_ok_iff {rules : List Rule} :
    ofRules value = .ok ⟨rules⟩ ↔
      ∃ elements, value.elements? = some elements ∧ List.Forall₂ Rule.Written elements rules := by
  have mapM_eq_ok_iff {elements : List Value} (isSequence : value.elements? = some elements) :
      elements.mapM Rule.ofValue = .ok rules ↔ List.Forall₂ Rule.Written elements rules := by
    rw [Toml.mapM_eq_ok_iff, List.forall₂_iff_get, List.forall₂_iff_get]
    have each (i : Nat) (inBounds : i < elements.length) (rule : Rule) :
        Rule.ofValue (elements.get ⟨i, inBounds⟩) = .ok rule ↔
          Rule.Written (elements.get ⟨i, inBounds⟩) rule :=
      ofValue_eq_ok_iff_of_mem distinct isSequence (List.get_mem _ _)
    simp only [each]
  constructor
  · intro decoded
    rcases Toml.bind_eq_ok_iff.1 decoded with ⟨elements, isSequence, decoded⟩
    rcases Toml.bind_eq_ok_iff.1 decoded with ⟨same, each, ⟨⟩⟩
    rw [Value.asSequence_eq_ok_iff] at isSequence
    exact ⟨elements, isSequence, (mapM_eq_ok_iff isSequence).1 each⟩
  · rintro ⟨elements, isSequence, each⟩
    have decoded := (mapM_eq_ok_iff isSequence).2 each
    rw [ofRules]
    exact Toml.bind_eq_ok_iff.2 ⟨elements, Value.asSequence_eq_ok_iff.2 isSequence,
      Toml.bind_eq_ok_iff.2 ⟨rules, decoded, rfl⟩⟩

theorem ofRules_eq_error_iff {reason : SchemaError} :
    ofRules value = .error reason ↔ MisfitRules value reason := by
  constructor
  · intro refused
    rcases Toml.bind_eq_error_iff.1 refused with failed | ⟨elements, isSequence, refused⟩
    · rcases Value.asSequence_eq_error_iff.1 failed with ⟨noSequence, rfl⟩
      exact .noSequence noSequence
    rcases Toml.bind_eq_error_iff.1 refused with failed | ⟨rules, _, ⟨⟩⟩
    rcases Toml.mapM_eq_error_iff.1 failed with ⟨before, bad, after, rfl, earlier, failed⟩
    rw [Value.asSequence_eq_ok_iff] at isSequence
    refine .rule isSequence ?_ (Rule.ofValue_eq_error_iff.1 failed)
    intro element member
    rcases earlier element member with ⟨rule, decoded⟩
    have among := List.mem_append_left (bad :: after) member
    exact ⟨rule, (ofValue_eq_ok_iff_of_mem distinct isSequence among).1 decoded⟩
  · intro misfit
    cases misfit with
    | noSequence noSequence =>
        rw [ofRules, Value.asSequence_eq_error_iff.2 ⟨noSequence, rfl⟩]
        rfl
    | @rule bad before after _ isSequence earlier misfit =>
        have failed : (before ++ bad :: after).mapM Rule.ofValue = .error reason := by
          refine Toml.mapM_eq_error_iff.2
            ⟨before, bad, after, rfl, ?_, Rule.ofValue_eq_error_iff.2 misfit⟩
          intro element member
          rcases earlier element member with ⟨rule, isWritten⟩
          have among := List.mem_append_left (bad :: after) member
          exact ⟨rule, (ofValue_eq_ok_iff_of_mem distinct isSequence among).2 isWritten⟩
        rw [ofRules]
        exact Toml.bind_eq_error_iff.2 (Or.inr ⟨_, Value.asSequence_eq_ok_iff.2 isSequence,
          Toml.bind_eq_error_iff.2 (Or.inl failed)⟩)

end Value

theorem ofRules_eachPart (value : Value) :
    ofRules (value.eachPart Rule.fields) = ofRules value := by
  rw [ofRules, ofRules, Value.asSequence_eachPart]
  cases value.asSequence with
  | error reason => rfl
  | ok elements =>
      have same : (elements.map (·.part Rule.fields)).mapM Rule.ofValue =
          elements.mapM Rule.ofValue := by
        rw [List.mapM_map]
        exact congrArg (elements.mapM ·) (funext Rule.ofValue_part)
      change ((elements.map (·.part Rule.fields)).mapM Rule.ofValue >>= _) =
        (elements.mapM Rule.ofValue >>= _)
      rw [same]

/-! ### The entries -/

/-- The rules that a document holds, in their order. -/
inductive Holds (entries : Entries) : List Rule → Prop where
  | none (absent : entries.find? "rule" = none) : Holds entries []
  | rules {value : Value} {elements : List Value} {rules : List Rule}
      (found : entries.find? "rule" = some value) (isSequence : value.elements? = some elements)
      (each : List.Forall₂ Rule.Written elements rules) : Holds entries rules

/-- What is reported of a document that holds no table. -/
def Misfit (entries : Entries) (reason : SchemaError) : Prop :=
  ∃ value, entries.find? "rule" = some value ∧ MisfitRules value reason

/-- The part of a document that rules are read from. -/
def rulesPart (entries : Entries) : Option Value :=
  (entries.find? "rule").map (·.eachPart Rule.fields)

section Entries

variable {entries : Entries}

theorem ofEntries_of_none (absent : entries.find? "rule" = none) : ofEntries entries = .ok ∅ := by
  rw [ofEntries, absent]

theorem ofEntries_of_some {value : Value} (found : entries.find? "rule" = some value) :
    ofEntries entries = ofRules value := by
  rw [ofEntries, found]
  rfl

theorem ofEntries_eq_ok_iff (distinct : entries.Distinct) {table : RuleTable} :
    ofEntries entries = .ok table ↔ Holds entries table.rules := by
  rcases table with ⟨rules⟩
  cases found : entries.find? "rule" with
  | none =>
      rw [ofEntries_of_none found]
      constructor
      · rintro ⟨⟩
        exact .none found
      · intro holds
        cases holds with
        | none absent => rfl
        | rules other => cases found.symm.trans other
  | some value =>
      rw [ofEntries_of_some found, ofRules_eq_ok_iff (distinct.of_find? found)]
      constructor
      · rintro ⟨elements, isSequence, each⟩
        exact .rules found isSequence each
      · intro holds
        cases holds with
        | none absent => cases found.symm.trans absent
        | rules same isSequence each =>
            cases found.symm.trans same
            exact ⟨_, isSequence, each⟩

theorem ofEntries_eq_error_iff (distinct : entries.Distinct) {reason : SchemaError} :
    ofEntries entries = .error reason ↔ Misfit entries reason := by
  cases found : entries.find? "rule" with
  | none => simp [ofEntries_of_none found, Misfit, found]
  | some value =>
      rw [ofEntries_of_some found, ofRules_eq_error_iff (distinct.of_find? found)]
      simp [Misfit, found]

/-- Documents with the same part for rules hold the same rules, or are refused for
the same reason. -/
theorem ofEntries_congr {other : Entries} (same : rulesPart other = rulesPart entries) :
    ofEntries other = ofEntries entries := by
  unfold rulesPart at same
  cases found : entries.find? "rule" with
  | none =>
      rw [found, Option.map_none, Option.map_eq_none_iff] at same
      rw [ofEntries_of_none found, ofEntries_of_none same]
  | some value =>
      rw [found, Option.map_some, Option.map_eq_some_iff] at same
      rcases same with ⟨value', found', same⟩
      rw [ofEntries_of_some found, ofEntries_of_some found', ← ofRules_eachPart value', same,
        ofRules_eachPart]

end Entries

/-! ### The text -/

/-- A document holds a table exactly if `rule` is absent or a sequence of rules, and
then the table has these rules in their order.  Otherwise what is reported is that
`rule` is no sequence, or what is wrong with its first element that is no rule; of
a table, that is its first wrong field.

The entries of a table behind a header in double brackets are in the order in which
its keys are written, where a table is written at its own header; between braces that
stand in the text they are in the order in which they are first named there.  Nothing
but the fields of the elements of `rule` matters. -/
theorem ofToml_decides_rules {text : String} {entries : Entries}
    (valid : Toml.parse? text.toList = some entries) :
    (∀ table : RuleTable, ofToml text = .ok table ↔ Holds entries table.rules) ∧
      (∀ error, ofToml text = .error error ↔
        ∃ reason, error = .schema reason ∧ Misfit entries reason) ∧
      (∃ body, Toml.body? text.toList = some body ∧ body.Gives entries ∧
        ∀ earlier last, entries.find? "rule" = some (.tables earlier last) →
          List.Forall₂ (fun part inner => part.Gives inner ∧ Entries.keys inner = part.keyOrder)
            (body.elements "rule") (earlier ++ [last])) ∧
      (∀ elements, entries.find? "rule" = some (.array elements) →
        ∀ origin inner, .table origin inner ∈ elements →
          ∃ depth front rest, '{' :: front <:+ text.toList ∧
            Value.inlineEntries (Value.readWithin depth) front = some (inner, rest) ∧
              Entries.keys inner = ((Value.inlineAssignments (Value.readWithin depth) front).map
                (·.key.head)).eraseDups) ∧
      ∀ (other : String) (otherEntries : Entries),
        Toml.parse? other.toList = some otherEntries →
          rulesPart otherEntries = rulesPart entries → ofToml other = ofToml text := by
  have distinct := Toml.distinct_of_parse? valid
  rcases Toml.exists_body_of_parse? valid with ⟨body, written, gives⟩
  refine ⟨?accepted, ?refused, ⟨body, written, gives, ?headers⟩, ?braces, ?irrelevant⟩
  case accepted =>
    intro table
    rw [ofToml, Toml.readText_eq_ok_iff valid, ofEntries_eq_ok_iff distinct]
  case refused =>
    intro error
    simp only [ofToml, Toml.readText_eq_error_iff valid, ofEntries_eq_error_iff distinct]
  case headers =>
    intro earlier last found
    have elementsGive := Toml.elements_give written gives "rule"
    rw [Entries.tablesUnder_of_find? found] at elementsGive
    exact elementsGive.imp fun part inner given => ⟨given, Body.keys_eq_keyOrder given⟩
  case braces =>
    intro elements found origin inner member
    have read := Toml.readIfArray_of_body? written gives "rule" _ found elements rfl
    rcases Value.exists_inlineEntries_of_isReadIn (Value.isReadIn_of_mem_array read member) with
      ⟨depth, front, rest, within, innerRead⟩
    exact ⟨depth, front, rest, within, innerRead, Value.keys_of_inlineEntries innerRead⟩
  case irrelevant =>
    intro other otherEntries otherValid same
    rw [ofToml, ofToml, Toml.readText_of_parse? valid, Toml.readText_of_parse? otherValid,
      ofEntries_congr same]

/-- In the second of two elements, a flag that is no text is reported and not the
device that is missing, whatever other keys there are. -/
theorem ofToml_decides_wrong_flag :
    let text := "[[rule]]\ndevice = \"a\"\nflag = \"b\"\n[[rule]]\nflag = 2\n"
    let other := "x = 0\n[[rule]]\ndevice = \"a\"\nflag = \"b\"\n[[rule]]\nx = 1\nflag = 2\n"
    let first : Entries := [("device", .string "a"), ("flag", .string "b")]
    Toml.parse? text.toList = some [("rule", .tables [first] [("flag", .integer 2)])] ∧
      ofToml text = .error (.schema (.wrongKind (.integer 2) .text)) ∧
      ofToml other = ofToml text := by
  intro text other first
  have valid : Toml.parse? text.toList =
      some [("rule", .tables [first] [("flag", .integer 2)])] := by
    cbv
  have otherValid : Toml.parse? other.toList =
      some [("x", .integer 0),
        ("rule", .tables [first] [("x", .integer 1), ("flag", .integer 2)])] := by
    cbv
  rcases ofToml_decides_rules valid with ⟨-, refused, -, -, irrelevant⟩
  have firstWritten : Rule.Written (.table .header first) ⟨"a", "b"⟩ := .table rfl rfl
  have misfitTable : Rule.MisfitTable [("flag", .integer 2)] (.wrongKind (.integer 2) .text) := by
    apply Rule.MisfitTable.field (List.nil_append _).symm (by decide)
    · simp [Rule.AllTexts]
    · rintro ⟨_, ⟨⟩⟩
  have misfit : MisfitRules (.tables [first] [("flag", .integer 2)])
      (.wrongKind (.integer 2) .text) := by
    have isSequence : Value.elements? (.tables [first] [("flag", .integer 2)]) =
        some ([.table .header first] ++ [.table .header [("flag", .integer 2)]]) := rfl
    apply MisfitRules.rule isSequence _ (.table rfl misfitTable)
    rw [List.forall_mem_singleton]
    exact ⟨_, firstWritten⟩
  exact ⟨valid, (refused _).2 ⟨_, rfl, _, rfl, misfit⟩, irrelevant other _ otherValid rfl⟩

/-- A flag that is named first is not the first to be reported where its table is
opened behind the device. -/
theorem ofToml_late_header :
    let text := "[[rule]]\n[rule.flag.x]\n[[rule.device]]\n[rule.flag]\n"
    let device : Value := .tables [] []
    let flag : Value := .table .header [("x", .table .header [])]
    Toml.parse? text.toList = some [("rule", .tables [] [("device", device), ("flag", flag)])] ∧
      (Toml.body? text.toList).map (fun body => (body.elements "rule").map fun part =>
        (part.mentions.map Toml.Mention.key).eraseDups) = some [["flag", "device"]] ∧
      ofToml text = .error (.schema (.wrongKind device .text)) ∧
      ofToml text ≠ .error (.schema (.wrongKind flag .text)) := by
  intro text device flag
  have written : Toml.body? text.toList =
      some ⟨[], [⟨.element ⟨[], "rule"⟩, []⟩, ⟨.table ⟨["rule", "flag"], "x"⟩, []⟩,
        ⟨.element ⟨["rule"], "device"⟩, []⟩, ⟨.table ⟨["rule"], "flag"⟩, []⟩]⟩ := by
    cbv
  have valid : Toml.parse? text.toList =
      some [("rule", .tables [] [("device", device), ("flag", flag)])] := by
    rw [Toml.parse?_eq_entries?, written]
    rfl
  have reported : ofToml text = .error (.schema (.wrongKind device .text)) := by
    rw [ofToml, Toml.readText_of_parse? valid]
    rfl
  refine ⟨valid, ?_, reported, ?_⟩
  · rw [written]
    rfl
  · rw [reported]
    simp [device, flag]

end RuleTable

end DeviceFlags
