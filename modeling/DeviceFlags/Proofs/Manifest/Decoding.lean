import DeviceFlags.Manifest
import DeviceFlags.Proofs.Toml.Distinct
import DeviceFlags.Proofs.Toml.Schema
import Mathlib

/-!
# What documents hold manifests

How a manifest names a device and says whether the built-in rules hold, and what
is reported of a document that is no manifest.  Either may be left out, but what
is there must be well formed.  Where neither is, the one that is written first is
reported.
-/

namespace DeviceFlags

open Toml (Entries Value SchemaError ReadError)

namespace Manifest

/-! ## The device -/

/-- How a device is named. -/
inductive NamesDevice : Value → String → Prop where
  | table {origin : Toml.Origin} {entries : Entries} {name : String}
      (found : entries.find? "name" = some (.string name)) :
      NamesDevice (.table origin entries) name
  | array {name : String} {more : List Value} : NamesDevice (.array (.string name :: more)) name

/-- What is reported of a value that names no device.  A date or time counts as a
table without entries. -/
inductive MisfitDevice (value : Value) : SchemaError → Prop where
  | noName {entries : Entries} (isTable : value.entries? = some entries)
      (absent : entries.find? "name" = none) : MisfitDevice value (.missing "name")
  | name {entries : Entries} {wrong : Value} (isTable : value.entries? = some entries)
      (found : entries.find? "name" = some wrong) (noText : ¬wrong.IsText) :
      MisfitDevice value (.wrongKind wrong .text)
  | empty (isArray : value.elements? = some []) :
      MisfitDevice value (.tooFew 0 "DeviceSection" 1)
  | element {wrong : Value} {more : List Value} (isArray : value.elements? = some (wrong :: more))
      (noText : ¬wrong.IsText) : MisfitDevice value (.wrongKind wrong .text)
  | scalar (noTable : value.entries? = none) (noArray : value.elements? = none) :
      MisfitDevice value (.wrongKind value (.record "DeviceSection"))

section Device

variable {value : Value}

theorem deviceOf_eq_ok_iff {name : String} :
    deviceOf value = .ok name ↔ NamesDevice value name := by
  rw [deviceOf, Value.asRecord_eq_iff]
  constructor
  · rintro (⟨entries, isTable, decoded⟩ | ⟨elements, isArray, decoded⟩ | ⟨_, _, ⟨⟩⟩)
    · rcases Toml.bind_eq_ok_iff.1 decoded with ⟨found, required, isText⟩
      rw [Entries.require_eq_ok_iff] at required
      rw [Value.text_eq_ok_iff] at isText
      subst isText
      rcases Value.eq_table_of_entries? isTable required with ⟨origin, rfl⟩
      exact .table required
    · cases elements with
      | nil => cases decoded
      | cons first more =>
          obtain rfl := Value.text_eq_ok_iff.1 decoded
          rw [Value.eq_array_of_elements? isArray]
          exact .array
  · intro names
    cases names with
    | table found =>
        refine Or.inl ⟨_, rfl, Toml.bind_eq_ok_iff.2 ⟨_, Entries.require_eq_ok_iff.2 found, rfl⟩⟩
    | array => exact Or.inr (Or.inl ⟨_, rfl, rfl⟩)

theorem deviceOf_eq_error_iff {reason : SchemaError} :
    deviceOf value = .error reason ↔ MisfitDevice value reason := by
  rw [deviceOf, Value.asRecord_eq_iff]
  constructor
  · rintro (⟨entries, isTable, refused⟩ | ⟨elements, isArray, refused⟩ | ⟨noTable, noArray, ⟨⟩⟩)
    · rcases Toml.bind_eq_error_iff.1 refused with failed | ⟨wrong, required, failed⟩
      · rcases Entries.require_eq_error_iff.1 failed with ⟨absent, rfl⟩
        exact .noName isTable absent
      · rcases Value.text_eq_error_iff.1 failed with ⟨noText, rfl⟩
        exact .name isTable (Entries.require_eq_ok_iff.1 required) noText
    · cases elements with
      | nil =>
          cases refused
          exact .empty isArray
      | cons wrong more =>
          rcases Value.text_eq_error_iff.1 refused with ⟨noText, rfl⟩
          exact .element isArray noText
    · exact .scalar noTable noArray
  · intro misfit
    cases misfit with
    | noName isTable absent =>
        have failed := Entries.require_eq_error_iff.2 ⟨absent, rfl⟩
        exact Or.inl ⟨_, isTable, Toml.bind_eq_error_iff.2 (Or.inl failed)⟩
    | name isTable found noText =>
        have failed := Value.text_eq_error_iff.2 ⟨noText, rfl⟩
        exact Or.inl ⟨_, isTable,
          Toml.bind_eq_error_iff.2 (Or.inr ⟨_, Entries.require_eq_ok_iff.2 found, failed⟩)⟩
    | empty isArray => exact Or.inr (Or.inl ⟨_, isArray, rfl⟩)
    | element isArray noText =>
        exact Or.inr (Or.inl ⟨_, isArray, Value.text_eq_error_iff.2 ⟨noText, rfl⟩⟩)
    | scalar noTable noArray => exact Or.inr (Or.inr ⟨noTable, noArray, rfl⟩)

theorem deviceOf_part (value : Value) : deviceOf (value.part ["name"]) = deviceOf value := by
  apply Value.asRecord_part
  · intro entries
    rw [deviceOfEntries, deviceOfEntries, Entries.require_only List.mem_cons_self]
  · rintro (_ | ⟨first, more⟩) <;> rfl

end Device

/-! ## The built-in rules -/

/-- What is said of the built-in rules. -/
inductive SaysBuiltin (value : Value) : Bool → Prop where
  | table {entries : Entries} {included : Bool} (isTable : value.entries? = some entries)
      (found : entries.find? "include-builtin" = some (.truth included)) :
      SaysBuiltin value included
  | silentTable {entries : Entries} (isTable : value.entries? = some entries)
      (absent : entries.find? "include-builtin" = none) : SaysBuiltin value true
  | array {included : Bool} {more : List Value}
      (isArray : value.elements? = some (.truth included :: more)) : SaysBuiltin value included
  | emptyArray (isArray : value.elements? = some []) : SaysBuiltin value true

/-- What is reported of a value that says nothing of the built-in rules where it
should. -/
inductive MisfitBuiltin (value : Value) : SchemaError → Prop where
  | field {entries : Entries} {wrong : Value} (isTable : value.entries? = some entries)
      (found : entries.find? "include-builtin" = some wrong) (noTruth : ¬wrong.IsTruth) :
      MisfitBuiltin value (.wrongKind wrong .truth)
  | element {wrong : Value} {more : List Value} (isArray : value.elements? = some (wrong :: more))
      (noTruth : ¬wrong.IsTruth) : MisfitBuiltin value (.wrongKind wrong .truth)
  | scalar (noTable : value.entries? = none) (noArray : value.elements? = none) :
      MisfitBuiltin value (.wrongKind value (.record "RulesSection"))

section Builtin

variable {value : Value}

theorem builtinOf_eq_ok_iff {included : Bool} :
    builtinOf value = .ok included ↔ SaysBuiltin value included := by
  rw [builtinOf, Value.asRecord_eq_iff]
  constructor
  · rintro (⟨entries, isTable, decoded⟩ | ⟨elements, isArray, decoded⟩ | ⟨_, _, ⟨⟩⟩)
    · rw [builtinOfEntries] at decoded
      split at decoded
      case h_1 absent =>
        cases decoded
        exact .silentTable isTable absent
      case h_2 said found =>
        rw [Value.asTruth_eq_ok_iff.1 decoded] at found
        exact .table isTable found
    · cases elements with
      | nil =>
          cases decoded
          exact .emptyArray isArray
      | cons first more =>
          rw [Value.asTruth_eq_ok_iff.1 decoded] at isArray
          exact .array isArray
  · intro said
    cases said with
    | table isTable found => exact Or.inl ⟨_, isTable, by rw [builtinOfEntries, found]; rfl⟩
    | silentTable isTable absent => exact Or.inl ⟨_, isTable, by rw [builtinOfEntries, absent]⟩
    | array isArray => exact Or.inr (Or.inl ⟨_, isArray, rfl⟩)
    | emptyArray isArray => exact Or.inr (Or.inl ⟨_, isArray, rfl⟩)

theorem builtinOf_eq_error_iff {reason : SchemaError} :
    builtinOf value = .error reason ↔ MisfitBuiltin value reason := by
  rw [builtinOf, Value.asRecord_eq_iff]
  constructor
  · rintro (⟨entries, isTable, refused⟩ | ⟨elements, isArray, refused⟩ | ⟨noTable, noArray, ⟨⟩⟩)
    · rw [builtinOfEntries] at refused
      split at refused
      case h_1 => cases refused
      case h_2 wrong found =>
        rcases Value.asTruth_eq_error_iff.1 refused with ⟨noTruth, rfl⟩
        exact .field isTable found noTruth
    · cases elements with
      | nil => cases refused
      | cons wrong more =>
          rcases Value.asTruth_eq_error_iff.1 refused with ⟨noTruth, rfl⟩
          exact .element isArray noTruth
    · exact .scalar noTable noArray
  · intro misfit
    cases misfit with
    | field isTable found noTruth =>
        refine Or.inl ⟨_, isTable, ?_⟩
        rw [builtinOfEntries, found]
        exact Value.asTruth_eq_error_iff.2 ⟨noTruth, rfl⟩
    | element isArray noTruth =>
        exact Or.inr (Or.inl ⟨_, isArray, Value.asTruth_eq_error_iff.2 ⟨noTruth, rfl⟩⟩)
    | scalar noTable noArray => exact Or.inr (Or.inr ⟨noTable, noArray, rfl⟩)

theorem builtinOf_part (value : Value) :
    builtinOf (value.part ["include-builtin"]) = builtinOf value := by
  apply Value.asRecord_part
  · intro entries
    rw [builtinOfEntries, builtinOfEntries, Entries.find?_only List.mem_cons_self]
  · rintro (_ | ⟨first, more⟩) <;> rfl

end Builtin

/-! ## Documents -/

/-- What is reported of the value of a key in a manifest. -/
inductive Misfit : String → Value → SchemaError → Prop where
  | device {value : Value} {reason : SchemaError} (misfit : MisfitDevice value reason) :
      Misfit "device" value reason
  | rules {value : Value} {reason : SchemaError} (misfit : MisfitBuiltin value reason) :
      Misfit "rules" value reason

/-- Whether the built-in rules hold, by a document.  They do if it says nothing. -/
inductive HoldsBuiltin (entries : Entries) : Bool → Prop where
  | absent (absent : entries.find? "rules" = none) : HoldsBuiltin entries true
  | said {value : Value} {included : Bool} (found : entries.find? "rules" = some value)
      (said : SaysBuiltin value included) : HoldsBuiltin entries included

/-- The manifest that a document holds. -/
structure Holds (entries : Entries) (manifest : Manifest) : Prop where
  device : Option.Rel NamesDevice (entries.find? "device") manifest.device
  builtin : HoldsBuiltin entries manifest.includeBuiltin

theorem checkKey_eq_error_iff {key : String} {value : Value} {reason : SchemaError} :
    checkKey key value = .error reason ↔ Misfit key value reason := by
  have map_eq_error_iff {α : Type} {first : Except SchemaError α} :
      (first.map fun _ => ()) = .error reason ↔ first = .error reason := by
    cases first <;> simp [Except.map]
  unfold checkKey
  constructor
  · intro refused
    split at refused
    case isTrue isDevice =>
      subst isDevice
      exact .device (deviceOf_eq_error_iff.1 (map_eq_error_iff.1 refused))
    case isFalse =>
      split at refused
      case isTrue isRules =>
        subst isRules
        exact .rules (builtinOf_eq_error_iff.1 (map_eq_error_iff.1 refused))
      case isFalse => cases refused
  · intro misfit
    cases misfit with
    | device misfit =>
        rw [if_pos rfl]
        exact map_eq_error_iff.2 (deviceOf_eq_error_iff.2 misfit)
    | rules misfit =>
        rw [if_neg (by decide), if_pos rfl]
        exact map_eq_error_iff.2 (builtinOf_eq_error_iff.2 misfit)

theorem checkKey_eq_ok_iff {key : String} {value : Value} :
    checkKey key value = .ok () ↔ ∀ reason, ¬Misfit key value reason := by
  simp only [← checkKey_eq_error_iff]
  cases checkKey key value <;> simp

section Entries

variable {entries : Entries}

theorem device_eq_ok_iff {device : Option String} :
    (entries.find? "device").mapM deviceOf = .ok device ↔
      Option.Rel NamesDevice (entries.find? "device") device := by
  simp only [Toml.option_mapM_eq_ok_iff, deviceOf_eq_ok_iff]

theorem builtin_eq_ok_iff {included : Bool} :
    (∃ said, (entries.find? "rules").mapM builtinOf = .ok said ∧ said.getD true = included) ↔
      HoldsBuiltin entries included := by
  simp only [Toml.option_mapM_eq_ok_iff, builtinOf_eq_ok_iff]
  constructor
  · rintro ⟨said, related, rfl⟩
    cases found : entries.find? "rules" with
    | none =>
        rw [found] at related
        cases related
        exact .absent found
    | some value =>
        rw [found] at related
        cases related with
        | some tells => exact .said found tells
  · intro holds
    cases holds with
    | absent absent =>
        rw [absent]
        exact ⟨none, .none, rfl⟩
    | said found tells =>
        rw [found]
        exact ⟨some included, .some tells, rfl⟩

/-- Once both keys have been checked, both can be read. -/
theorem exists_holds_of_check (checked : entries.check checkKey = .ok ()) :
    ∃ manifest, Holds entries manifest := by
  have passes {key : String} {value : Value} (found : entries.find? key = some value) :
      ∀ reason, ¬Misfit key value reason :=
    checkKey_eq_ok_iff.1 (Entries.check_eq_ok_iff.1 checked _ (Entries.mem_of_find? found))
  obtain ⟨device, names⟩ :
      ∃ device, Option.Rel NamesDevice (entries.find? "device") device := by
    cases found : entries.find? "device" with
    | none => exact ⟨none, .none⟩
    | some value =>
        cases decoded : deviceOf value with
        | ok name => exact ⟨some name, .some (deviceOf_eq_ok_iff.1 decoded)⟩
        | error reason =>
            exact absurd (.device (deviceOf_eq_error_iff.1 decoded)) (passes found reason)
  obtain ⟨included, holds⟩ : ∃ included, HoldsBuiltin entries included := by
    cases found : entries.find? "rules" with
    | none => exact ⟨true, .absent found⟩
    | some value =>
        cases decoded : builtinOf value with
        | ok included => exact ⟨included, .said found (builtinOf_eq_ok_iff.1 decoded)⟩
        | error reason =>
            exact absurd (.rules (builtinOf_eq_error_iff.1 decoded)) (passes found reason)
  exact ⟨⟨device, included⟩, names, holds⟩

theorem check_of_holds (distinct : entries.keys.Nodup) {manifest : Manifest}
    (holds : Holds entries manifest) : entries.check checkKey = .ok () := by
  rcases manifest with ⟨device, included⟩
  rcases holds with ⟨names, builtin⟩
  rw [Entries.check_eq_ok_iff]
  rintro ⟨key, value⟩ member
  have found := Entries.find?_of_mem distinct member
  rw [checkKey_eq_ok_iff]
  intro reason misfit
  cases misfit with
  | device misfit =>
      rw [found] at names
      cases names with
      | some names =>
          cases (deviceOf_eq_ok_iff.2 names).symm.trans (deviceOf_eq_error_iff.2 misfit)
  | rules misfit =>
      cases builtin with
      | absent absent => cases found.symm.trans absent
      | said found' tells =>
          cases found.symm.trans found'
          cases (builtinOf_eq_ok_iff.2 tells).symm.trans (builtinOf_eq_error_iff.2 misfit)

theorem ofEntries_of_check {manifest : Manifest} (checked : entries.check checkKey = .ok ()) :
    ofEntries entries = .ok manifest ↔ Holds entries manifest := by
  constructor
  · intro decoded
    rcases Toml.bind_eq_ok_iff.1 decoded with ⟨_, -, decoded⟩
    rcases Toml.bind_eq_ok_iff.1 decoded with ⟨device, names, decoded⟩
    rcases Toml.bind_eq_ok_iff.1 decoded with ⟨said, tells, ⟨⟩⟩
    exact ⟨device_eq_ok_iff.1 names, builtin_eq_ok_iff.1 ⟨said, tells, rfl⟩⟩
  · rintro ⟨names, holds⟩
    rcases manifest with ⟨device, included⟩
    rcases builtin_eq_ok_iff.2 holds with ⟨said, tells, rfl⟩
    exact Toml.bind_eq_ok_iff.2 ⟨(), checked,
      Toml.bind_eq_ok_iff.2 ⟨device, device_eq_ok_iff.2 names,
        Toml.bind_eq_ok_iff.2 ⟨said, tells, rfl⟩⟩⟩

theorem ofEntries_eq_ok_iff (distinct : entries.keys.Nodup) {manifest : Manifest} :
    ofEntries entries = .ok manifest ↔ Holds entries manifest := by
  constructor
  · intro decoded
    rcases Toml.bind_eq_ok_iff.1 decoded with ⟨_, checked, -⟩
    exact (ofEntries_of_check checked).1 decoded
  · intro holds
    exact (ofEntries_of_check (check_of_holds distinct holds)).2 holds

/-- All that can be wrong is found by the check of the keys. -/
theorem ofEntries_eq_error_iff_check {reason : SchemaError} :
    ofEntries entries = .error reason ↔ entries.check checkKey = .error reason := by
  constructor
  · intro refused
    cases checked : entries.check checkKey with
    | error first =>
        rw [ofEntries, checked] at refused
        cases refused
        rfl
    | ok done =>
        rcases exists_holds_of_check checked with ⟨manifest, holds⟩
        cases ((ofEntries_of_check checked).2 holds).symm.trans refused
  · intro failed
    rw [ofEntries, failed]
    rfl

/-- The key that is reported is the first of those that do not fit. -/
theorem ofEntries_eq_error_iff (distinct : entries.keys.Nodup) {reason : SchemaError} :
    ofEntries entries = .error reason ↔
      ∃ key value, entries.find? key = some value ∧ Misfit key value reason ∧
        ∀ other otherValue otherReason, entries.find? other = some otherValue →
          Misfit other otherValue otherReason → other ≠ key →
            entries.keys.idxOf key < entries.keys.idxOf other := by
  rw [ofEntries_eq_error_iff_check, Entries.check_eq_error_iff_first distinct]
  simp only [checkKey_eq_error_iff]

/-! ### What a manifest is read from -/

/-- The keys of a manifest. -/
def keys : List String := ["device", "rules"]

/-- The fields in the table of a key. -/
def fields (key : String) : List String :=
  if key = "device" then ["name"] else ["include-builtin"]

/-- The part of a document that a manifest is read from. -/
def manifestPart (entries : Entries) : Entries :=
  (entries.only keys).eachPart fields

theorem find?_manifestPart {key : String} (asked : key ∈ keys) :
    (manifestPart entries).find? key = (entries.find? key).map (·.part (fields key)) := by
  rw [manifestPart, Entries.find?_eachPart, Entries.find?_only asked]

theorem check_manifestPart : (manifestPart entries).check checkKey = entries.check checkKey := by
  have ofPart (key : String) (value : Value) :
      checkKey key (value.part (fields key)) = checkKey key value := by
    unfold checkKey fields
    by_cases isDevice : key = "device"
    · simp only [if_pos isDevice, deviceOf_part]
    · simp only [if_neg isDevice, builtinOf_part]
  have passes (key : String) (value : Value) (other : key ∉ keys) :
      checkKey key value = .ok () := by
    rw [checkKey_eq_ok_iff]
    rintro reason (_ | _)
    · exact other (by decide)
    · exact other (by decide)
  rw [manifestPart, Entries.check_eachPart ofPart, Entries.check_only passes]

theorem ofEntries_manifestPart : ofEntries (manifestPart entries) = ofEntries entries := by
  have device : ((manifestPart entries).find? "device").mapM deviceOf =
      (entries.find? "device").mapM deviceOf := by
    rw [find?_manifestPart (by decide)]
    cases entries.find? "device" with
    | none => rfl
    | some value =>
        rw [Option.map_some, Option.mapM_some, Option.mapM_some]
        exact congrArg _ (deviceOf_part value)
  have builtin : ((manifestPart entries).find? "rules").mapM builtinOf =
      (entries.find? "rules").mapM builtinOf := by
    rw [find?_manifestPart (by decide)]
    cases entries.find? "rules" with
    | none => rfl
    | some value =>
        rw [Option.map_some, Option.mapM_some, Option.mapM_some]
        exact congrArg _ (builtinOf_part value)
  rw [ofEntries, ofEntries, check_manifestPart, device, builtin]

end Entries

/-! ### The text -/

/-- A document holds a manifest exactly if its device and what it says of the built-in
rules can be read, where either may be absent.  Otherwise what is reported is what
is wrong with the one of them that does not fit or, if neither fits, with the one
that is written first, where a table is written at its own header.  Nothing but
these two fields matters. -/
theorem ofToml_decides_sections {text : String} {entries : Entries}
    (valid : Toml.parse? text.toList = some entries) :
    (∀ manifest : Manifest, ofToml text = .ok manifest ↔ Holds entries manifest) ∧
      (∃ body, Toml.body? text.toList = some body ∧ body.Gives entries ∧
        ∀ error, ofToml text = .error error ↔
          ∃ key value reason, error = .schema reason ∧ entries.find? key = some value ∧
            Misfit key value reason ∧
            ∀ other otherValue otherReason, entries.find? other = some otherValue →
              Misfit other otherValue otherReason → other ≠ key →
                body.keyOrder.idxOf key < body.keyOrder.idxOf other) ∧
      ∀ (other : String) (otherEntries : Entries),
        Toml.parse? other.toList = some otherEntries →
          manifestPart otherEntries = manifestPart entries → ofToml other = ofToml text := by
  have distinct := (Toml.distinct_of_parse? valid).keys
  rcases Toml.exists_body_of_parse? valid with ⟨body, written, gives⟩
  refine ⟨?accepted, ⟨body, written, gives, ?refused⟩, ?irrelevant⟩
  case accepted =>
    intro manifest
    rw [ofToml, Toml.readText_eq_ok_iff valid, ofEntries_eq_ok_iff distinct]
  case refused =>
    intro error
    rw [ofToml, Toml.readText_eq_error_iff valid, ← Toml.Body.keys_eq_keyOrder gives]
    simp only [ofEntries_eq_error_iff distinct]
    constructor
    · rintro ⟨reason, same, key, value, first⟩
      exact ⟨key, value, reason, same, first⟩
    · rintro ⟨key, value, reason, same, first⟩
      exact ⟨reason, same, key, value, first⟩
  case irrelevant =>
    intro other otherEntries otherValid same
    rw [ofToml, ofToml, Toml.readText_of_parse? valid, Toml.readText_of_parse? otherValid,
      ← ofEntries_manifestPart, same, ofEntries_manifestPart]

/-- Where neither of the two fits, the first is reported, whatever else is written. -/
theorem ofToml_decides_sections_neither :
    let text := "rules = 1\ndevice = 2\n"
    let other := "rules = 1\nname = 3\ndevice = 2\n"
    Toml.parse? text.toList = some [("rules", .integer 1), ("device", .integer 2)] ∧
      ofToml text = .error (.schema (.wrongKind (.integer 1) (.record "RulesSection"))) ∧
      ofToml other = ofToml text := by
  intro text other
  have valid : Toml.parse? text.toList = some [("rules", .integer 1), ("device", .integer 2)] := by
    cbv
  have otherValid : Toml.parse? other.toList =
      some [("rules", .integer 1), ("name", .integer 3), ("device", .integer 2)] := by
    cbv
  rcases ofToml_decides_sections valid with ⟨-, ⟨body, -, gives, refused⟩, irrelevant⟩
  refine ⟨valid, (refused _).2 ?_, irrelevant other _ otherValid rfl⟩
  refine ⟨"rules", .integer 1, _, rfl, rfl, .rules (.scalar rfl rfl), ?_⟩
  intro key value reason _ misfit different
  rw [← Toml.Body.keys_eq_keyOrder gives]
  cases misfit with
  | device misfit => decide
  | rules misfit => exact absurd rfl different

/-- What is said of the built-in rules is named first, but it is not the first to be
reported where its table is opened behind the device. -/
theorem ofToml_late_section :
    let text := "[rules.include-builtin]\n[device]\nname = 1\n[rules]\n"
    let included : Value := .table .header []
    Toml.parse? text.toList =
        some [("device", .table .header [("name", .integer 1)]),
          ("rules", .table .header [("include-builtin", included)])] ∧
      (Toml.body? text.toList).map (fun body => (body.mentions.map Toml.Mention.key).eraseDups) =
        some ["rules", "device"] ∧
      ofToml text = .error (.schema (.wrongKind (.integer 1) .text)) ∧
      ofToml text ≠ .error (.schema (.wrongKind included .truth)) := by
  intro text included
  have written : Toml.body? text.toList =
      some ⟨[], [⟨.table ⟨["rules"], "include-builtin"⟩, []⟩,
        ⟨.table ⟨[], "device"⟩, [⟨⟨[], "name"⟩, .integer 1⟩]⟩, ⟨.table ⟨[], "rules"⟩, []⟩]⟩ := by
    cbv
  have valid : Toml.parse? text.toList =
      some [("device", .table .header [("name", .integer 1)]),
        ("rules", .table .header [("include-builtin", included)])] := by
    rw [Toml.parse?_eq_entries?, written]
    rfl
  have reported : ofToml text = .error (.schema (.wrongKind (.integer 1) .text)) := by
    rw [ofToml, Toml.readText_of_parse? valid]
    rfl
  refine ⟨valid, ?_, reported, ?_⟩
  · rw [written]
    rfl
  · rw [reported]
    simp [included]

end Manifest

end DeviceFlags
