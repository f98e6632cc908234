import DeviceFlags.Toml.Document

/-!
# Checking values against a schema

What a document means is read off its values by asking for texts, truth
values, sequences and records.  A record is written as a table with named
fields, or as an array with the fields in their declared order.  Keys and
elements that no field claims are ignored.
-/

namespace DeviceFlags.Toml

/-- What a place in a document calls for. -/
inductive Expectation where
  | text
  | truth
  | sequence
  /-- A record, by the name that reports use for it. -/
  | record (name : String)
  deriving DecidableEq, Repr

/-- What a report calls an expectation. -/
def Expectation.description : Expectation → String
  | .text => "a string"
  | .truth => "a boolean"
  | .sequence => "a sequence"
  | .record name => "struct " ++ name

/-- Why a value does not fit its place. -/
inductive SchemaError where
  /-- The value is of another kind. -/
  | wrongKind (value : Value) (expected : Expectation)
  /-- An array has too few elements for the fields of a record. -/
  | tooFew (length : Nat) (record : String) (fields : Nat)
  /-- A table has no such key. -/
  | missing (field : String)

/-- The report of an error. -/
def SchemaError.message : SchemaError → String
  | .wrongKind value expected =>
      "invalid type: " ++ value.description ++ ", expected " ++ expected.description
  | .tooFew length record fields =>
      "invalid length " ++ toString length ++ ", expected struct " ++ record ++ " with " ++
        toString fields ++ (if fields = 1 then " element" else " elements")
  | .missing field => "missing field `" ++ field ++ "`"

/-- Why a text does not give what is asked of it. -/
inductive ReadError where
  /-- The text is not a document. -/
  | malformed
  /-- The document does not fit the schema. -/
  | schema (error : SchemaError)

namespace Value

/-- A value that must be a text. -/
def text : Value → Except SchemaError String
  | .string text => .ok text
  | value => .error (.wrongKind value .text)

/-- A value that must be a truth value. -/
def asTruth : Value → Except SchemaError Bool
  | .truth value => .ok value
  | value => .error (.wrongKind value .truth)

/-- A value that must be a sequence. -/
def asSequence (value : Value) : Except SchemaError (List Value) :=
  match value.elements? with
  | some elements => .ok elements
  | none => .error (.wrongKind value .sequence)

/-- Reads a record from its table or its array. -/
def asRecord {α : Type} (name : String) (ofEntries : Entries → Except SchemaError α)
    (ofElements : List Value → Except SchemaError α) (value : Value) : Except SchemaError α :=
  match value.entries?, value.elements? with
  | some entries, _ => ofEntries entries
  | none, some elements => ofElements elements
  | none, none => .error (.wrongKind value (.record name))

end Value

namespace Entries

/-- Checks entries in the order of the document and reports the first that
fails. -/
def check (entries : Entries) (accept : String → Value → Except SchemaError Unit) :
    Except SchemaError Unit :=
  match entries with
  | [] => .ok ()
  | (key, value) :: rest =>
      match accept key value with
      | .error error => .error error
      | .ok () => check rest accept

/-- The value of a key that must be present. -/
def require (entries : Entries) (field : String) : Except SchemaError Value :=
  match entries.find? field with
  | some value => .ok value
  | none => .error (.missing field)

end Entries

/-- Reads a text as a document and the document by a schema. -/
def readText {α : Type} (schema : Entries → Except SchemaError α) (text : String) :
    Except ReadError α :=
  match parse? text.toList with
  | none => .error .malformed
  | some entries => (schema entries).mapError .schema

end DeviceFlags.Toml
