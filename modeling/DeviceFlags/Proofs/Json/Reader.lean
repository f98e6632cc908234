import DeviceFlags.Json
import DeviceFlags.Toml.Number
import DeviceFlags.Toml.StringLiteral.Reader

/-!
# Reading JSON

All of JSON, and not only the fragment that reports use: blanks may stand
between any two tokens, a string may escape what it need not, and there are
numbers and the three words.  A number is kept as it is written.  A comma stands
between two elements or members and nowhere else.
-/

namespace DeviceFlags.Json

open Toml (Reader expect)

/-- What a JSON text can say. -/
inductive Value where
  | null
  | truth (value : Bool)
  | number (numeral : List Char)
  | string (text : String)
  | array (elements : List Value)
  | object (members : List (String × Value))

/-- Whether a character may stand between two tokens. -/
def isBlank (c : Char) : Bool :=
  c == ' ' || c == '\t' || c == '\n' || c == '\r'

/-- Drops blanks. -/
def skipBlanks (text : List Char) : List Char :=
  text.dropWhile isBlank

/-! ## Strings -/

/-- Four hexadecimal digits. -/
def codeUnit : Reader Nat := fun text =>
  if 4 ≤ text.length then (Text.Hex.number? (text.take 4)).map (·, text.drop 4) else none

/-- The character that two surrogates name. -/
def pair? (high low : Nat) : Option Char :=
  if 0xD800 ≤ high ∧ high < 0xDC00 ∧ 0xDC00 ≤ low ∧ low < 0xE000 then
    some (Char.ofNat (0x10000 + 0x400 * (high - 0xD800) + (low - 0xDC00)))
  else
    none

/-- A character by its code point, or by two surrogates with a mark of its own
before the second. -/
def named : Reader Char := fun text => do
  let (first, rest) ← codeUnit text
  match Toml.StringLiteral.scalar? first with
  | some c => return (c, rest)
  | none =>
      let rest ← expect '\\' rest
      let rest ← expect 'u' rest
      let (second, rest) ← codeUnit rest
      let c ← pair? first second
      return (c, rest)

/-- The escape behind a backslash. -/
def escape : Reader Char
  | '"' :: rest => some ('"', rest)
  | '\\' :: rest => some ('\\', rest)
  | '/' :: rest => some ('/', rest)
  | 'b' :: rest => some ('\x08', rest)
  | 'f' :: rest => some ('\x0c', rest)
  | 'n' :: rest => some ('\n', rest)
  | 'r' :: rest => some ('\r', rest)
  | 't' :: rest => some ('\t', rest)
  | 'u' :: rest => named rest
  | _ => none

/-- A character of a string. -/
def character : Reader Char
  | [] => none
  | c :: rest =>
      if c = '\\' then escape rest
      else if c = '"' ∨ c.toNat < 0x20 then none
      else some (c, rest)

/-- A string between its quotes. -/
def quoted : Reader String := fun text => do
  let text ← expect '"' text
  let (characters, rest) := Reader.many character text
  let rest ← expect '"' rest
  return (String.ofList characters, rest)

/-! ## Numbers -/

/-- One of some characters. -/
def oneOf (marks : List Char) : Reader (List Char)
  | [] => none
  | c :: rest => if c ∈ marks then some ([c], rest) else none

/-- Nothing where a reader fails. -/
def optional (reader : Reader (List Char)) : Reader (List Char) := fun text =>
  some ((reader text).getD ([], text))

/-- One text behind another. -/
def inRow (first second : Reader (List Char)) : Reader (List Char) := fun text => do
  let (front, rest) ← first text
  let (back, rest) ← second rest
  return (front ++ back, rest)

/-- One digit or more. -/
def digits : Reader (List Char) := fun text =>
  let found := text.takeWhile Char.isDigit
  if found.isEmpty then none else some (found, text.dropWhile Char.isDigit)

/-- The whole part of a number, which has no leading zeros. -/
def whole : Reader (List Char)
  | '0' :: rest => some (['0'], rest)
  | text => digits text

/-- A number: its sign, its whole part, its fraction and its exponent. -/
def numeral : Reader (List Char) :=
  inRow (optional (oneOf ['-'])) <| inRow whole <|
    inRow (optional (inRow (oneOf ['.']) digits)) <|
      optional (inRow (oneOf ['e', 'E']) (inRow (optional (oneOf ['+', '-'])) digits))

/-! ## Values -/

/-- A value that is no string and has no parts. -/
def scalar : Reader Value
  | 'n' :: 'u' :: 'l' :: 'l' :: rest => some (.null, rest)
  | 't' :: 'r' :: 'u' :: 'e' :: rest => some (.truth true, rest)
  | 'f' :: 'a' :: 'l' :: 's' :: 'e' :: rest => some (.truth false, rest)
  | text => numeral.map .number text

/-- Items behind an opening bracket, with commas between them. -/
def listed {α : Type} (close : Char) (item : Reader α) : Reader (List α) := fun text => do
  let (items, rest) := Reader.separated ',' (Reader.between skipBlanks item) text
  let rest ← expect close (skipBlanks rest)
  return (items, rest)

/-- A member of an object. -/
def member (value : Reader Value) : Reader (String × Value) := fun text => do
  let (name, rest) ← quoted text
  let rest ← expect ':' (skipBlanks rest)
  let (value, rest) ← value (skipBlanks rest)
  return ((name, value), rest)

/-- A value whose parts stand less than `depth` brackets deep. -/
def valueWithin : (depth : Nat) → Reader Value
  | 0 => fun _ => none
  | depth + 1 => fun text =>
      match text with
      | '"' :: _ => quoted.map .string text
      | '[' :: rest => (listed ']' (valueWithin depth)).map .array rest
      | '{' :: rest => (listed '}' (member (valueWithin depth))).map .object rest
      | text => scalar text

/-- The value that a text is, with blanks around it.  Nothing stands more
brackets deep than the text has characters. -/
def read? (text : List Char) : Option Value := do
  let (value, rest) ← Reader.between skipBlanks (valueWithin text.length) text
  if rest.isEmpty then some value else none

example : read? "[\"\\u00e9\\/\", \x7b\"n\" : -1.5e+3\x7d]\n".toList =
    some (.array [.string "é/", .object [("n", .number "-1.5e+3".toList)]]) := by
  cbv

example : read? "[\"a\",]".toList = none := by
  cbv

end DeviceFlags.Json
