import DeviceFlags.Toml.Moment
import DeviceFlags.Toml.Number
import DeviceFlags.Toml.StringLiteral.Reader
import DeviceFlags.Toml.Table

/-!
# Reading keys and values

A key is a word or a string, and several of them with points between make a
dotted key.  A value is a scalar, an array or an inline table; arrays may span
lines and end in a comma, inline tables may not.
-/

namespace DeviceFlags.Toml

/-- The number that the brackets open at once and the parts of a dotted key stay
below. -/
def nestingLimit : Nat := 80

/-- Whether a character may stand in a key without quotes. -/
def isBareKeyChar (c : Char) : Bool :=
  c.isAlphanum || c == '_' || c == '-'

/-- One part of a key. -/
def keyPart : Reader String := fun text =>
  match StringLiteral.line text with
  | some (key, rest) => some (String.ofList key, rest)
  | none =>
      let key := text.takeWhile isBareKeyChar
      if key.isEmpty then none else some (String.ofList key, text.dropWhile isBareKeyChar)

/-- The key with the given parts, if there is a part and the limit allows it. -/
def KeyPath.ofParts? (parts : List String) : Option KeyPath :=
  match parts.getLast? with
  | none => none
  | some name => if parts.length < nestingLimit then some ⟨parts.dropLast, name⟩ else none

/-- A key of one part or more, with the spaces around it. -/
def KeyPath.read : Reader KeyPath := fun text =>
  let (parts, rest) := Reader.separated '.' (Reader.between skipSpace keyPart) text
  (KeyPath.ofParts? parts).map (·, rest)

/-- A value without brackets. -/
def Value.scalar : Reader Value := fun text =>
  match StringLiteral.read text with
  | some (characters, rest) => some (.string (String.ofList characters), rest)
  | none =>
      match text with
      | 't' :: 'r' :: 'u' :: 'e' :: rest => some (.truth true, rest)
      | 'f' :: 'a' :: 'l' :: 's' :: 'e' :: rest => some (.truth false, rest)
      | text =>
          match Moment.read text with
          | some (found, rest) => some (.moment found, rest)
          | none => Number.read text

/-- The elements of an array behind its opening bracket. -/
def Value.elements (element : Reader Value) : Reader (List Value) := fun text =>
  let (elements, rest) := Reader.separated ',' (Reader.between skipLayout element) text
  match skipLayout rest with
  | ']' :: rest => some (elements, rest)
  | ',' :: rest =>
      match elements, skipLayout rest with
      | _ :: _, ']' :: rest => some (elements, rest)
      | _, _ => none
  | _ => none

/-- A key, an equals sign and a value. -/
def Assignment.read (value : Reader Value) : Reader Assignment := fun text => do
  let (key, text) ← KeyPath.read text
  let text ← expect '=' text
  let (value, text) ← value (skipSpace text)
  return (⟨key, value⟩, text)

/-- The assignments of an inline table behind its opening brace. -/
def Value.inlineEntries (value : Reader Value) : Reader Entries := fun text => do
  let (assignments, rest) :=
    Reader.separated ',' (Reader.between skipSpace (Assignment.read value)) text
  let rest ← expect '}' (skipSpace rest)
  let entries ← Entries.assignAll [] assignments
  return (entries, rest)

/-- A value inside which at most `depth` brackets open. -/
def Value.readWithin : (depth : Nat) → Reader Value
  | 0 => scalar
  | depth + 1 => fun text =>
      match text with
      | '[' :: rest => Reader.map .array (elements (readWithin depth)) rest
      | '{' :: rest => Reader.map (.table .inline) (inlineEntries (readWithin depth)) rest
      | text => scalar text

/-- A value. -/
def Value.read : Reader Value :=
  readWithin (nestingLimit - 1)

end DeviceFlags.Toml
