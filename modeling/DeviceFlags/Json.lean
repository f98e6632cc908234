import DeviceFlags.Text.Hex

/-!
# JSON text

The fragment of JSON that reports use: strings, arrays and objects, written
without blanks.  A string escapes the quote, the backslash and the characters
below U+0020, and nothing else.
-/

namespace DeviceFlags

/-- A JSON value built from strings, arrays and objects.  The members of an
object keep their order. -/
inductive Json where
  | string (text : String)
  | array (elements : List Json)
  | object (members : List (String × Json))

namespace Json

/-- One character inside a string literal.  The five controls with a short
escape use it; every other control is written by its code point. -/
def escapeChar (c : Char) : List Char :=
  if c = '"' then ['\\', '"']
  else if c = '\\' then ['\\', '\\']
  else if c.toNat = 0x08 then ['\\', 'b']
  else if c.toNat = 0x0C then ['\\', 'f']
  else if c = '\n' then ['\\', 'n']
  else if c = '\r' then ['\\', 'r']
  else if c = '\t' then ['\\', 't']
  else if c.toNat < 0x20 then ['\\', 'u'] ++ Text.Hex.padded Text.Hex.lowerDigit 4 c.toNat
  else [c]

/-- A string literal. -/
def literal (text : String) : List Char :=
  '"' :: text.toList.flatMap escapeChar ++ ['"']

mutual

/-- The text of a value. -/
def print : Json → List Char
  | .string text => literal text
  | .array elements => '[' :: printElements elements ++ [']']
  | .object members => '{' :: printMembers members ++ ['}']

/-- The texts of the elements of an array, with commas between them. -/
def printElements : List Json → List Char
  | [] => []
  | [element] => print element
  | element :: next :: rest => print element ++ ',' :: printElements (next :: rest)

/-- The members of an object, with commas between them. -/
def printMembers : List (String × Json) → List Char
  | [] => []
  | [(name, value)] => literal name ++ ':' :: print value
  | (name, value) :: next :: rest =>
      literal name ++ ':' :: print value ++ ',' :: printMembers (next :: rest)

end

/-- The text of a value, as a string. -/
def render (value : Json) : String :=
  String.ofList value.print

/-- An array of strings. -/
def ofStrings (texts : List String) : Json :=
  .array (texts.map .string)

end Json

end DeviceFlags
