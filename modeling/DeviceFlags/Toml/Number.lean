import DeviceFlags.Text.Hex
import DeviceFlags.Toml.Reader
import DeviceFlags.Toml.Value

/-!
# Reading numbers

Integers are decimal with an optional sign, or hexadecimal, octal or binary
without one, and fit 64 signed bits.  A number with a fraction or an exponent
is binary floating point.  An underscore may stand between two digits.
-/

namespace DeviceFlags.Toml.Number

/-- Digits behind a first one, each possibly behind an underscore.  The
underscores are left out. -/
def moreDigits (accept : Char → Bool) : List Char → List Char × List Char
  | [] => ([], [])
  | '_' :: c :: rest =>
      if accept c then
        let others := moreDigits accept rest
        (c :: others.1, others.2)
      else
        ([], '_' :: c :: rest)
  | c :: rest =>
      if accept c then
        let others := moreDigits accept rest
        (c :: others.1, others.2)
      else
        ([], c :: rest)

/-- One digit or more. -/
def digits (accept : Char → Bool) : Reader (List Char)
  | [] => none
  | c :: rest =>
      if accept c then
        let others := moreDigits accept rest
        some (c :: others.1, others.2)
      else
        none

/-- The whole part of a decimal number, which has no leading zeros. -/
def whole : Reader (List Char)
  | '0' :: rest => some (['0'], rest)
  | text => digits Char.isDigit text

/-- The number that digits denote in a base. -/
def valueIn (base : Nat) (digits : List Char) : Nat :=
  digits.foldl (fun total c => base * total + (Text.Hex.value? c).getD 0) 0

/-- Whether a digit belongs to a base of at most sixteen. -/
def isDigitIn (base : Nat) (c : Char) : Bool :=
  (Text.Hex.value? c).any (· < base)

/-- A leading sign: whether the number is negative, and the rest. -/
def sign : List Char → Bool × List Char
  | '-' :: rest => (true, rest)
  | '+' :: rest => (false, rest)
  | text => (false, text)

/-- An integer of 64 signed bits. -/
def integer? (number : Int) : Option Value :=
  if -0x8000000000000000 ≤ number ∧ number < 0x8000000000000000 then some (.integer number)
  else none

/-- A fraction: the digits behind a point. -/
def fraction : Reader (List Char) :=
  Reader.after '.' (digits Char.isDigit)

/-- An exponent: digits behind a letter and an optional sign. -/
def exponent : Reader Int
  | [] => none
  | c :: text =>
      if c = 'e' ∨ c = 'E' then
        let (negative, text) := sign text
        (digits Char.isDigit text).map fun (found, rest) =>
          let size : Int := valueIn 10 found
          (if negative then -size else size, rest)
      else
        none

/-- The binary64 number nearest to `digits * 10 ^ exponent`.  Beyond four
hundred decimal places from the point the answer is known without arithmetic. -/
def nearest (digits : Nat) (exponent : Int) : Float :=
  let magnitude := exponent + (Nat.toDigits 10 digits).length
  if digits = 0 ∨ magnitude < -400 then 0
  else if 400 < magnitude then 1 / 0
  else Float.ofScientific digits (exponent < 0) exponent.natAbs

/-- A floating-point number.  One too large for the format is refused; one too
small for it is the infinity below. -/
def float? (negative : Bool) (digits : Nat) (exponent : Int) : Option Value :=
  let size := nearest digits exponent
  if negative then some (.float (-size))
  else if size.isInf then none
  else some (.float size)

/-- An unsigned integer in a base, behind its two-letter mark. -/
def inBase (base : Nat) : Reader Value := fun text => do
  let (found, rest) ← digits (isDigitIn base) text
  let value ← integer? (valueIn base found)
  return (value, rest)

/-- A decimal number behind its sign. -/
def decimal (negative : Bool) : Reader Value := fun text => do
  let (wholeDigits, rest) ← whole text
  let (places, rest) := (fraction rest).getD ([], rest)
  match exponent rest with
  | some (power, rest) =>
      let value ← float? negative (valueIn 10 (wholeDigits ++ places)) (power - places.length)
      return (value, rest)
  | none =>
      if places.isEmpty then
        let size : Int := valueIn 10 wholeDigits
        let value ← integer? (if negative then -size else size)
        return (value, rest)
      else
        let value ← float? negative (valueIn 10 (wholeDigits ++ places)) (-places.length)
        return (value, rest)

/-- A number behind its sign: a word for what is not finite, or digits. -/
def unsigned (negative : Bool) : Reader Value
  | 'i' :: 'n' :: 'f' :: rest => some (.float (if negative then -1 / 0 else 1 / 0), rest)
  | 'n' :: 'a' :: 'n' :: rest => some (.float (0 / 0), rest)
  | text => decimal negative text

/-- A number in any form. -/
def read : Reader Value
  | '0' :: 'x' :: rest => inBase 16 rest
  | '0' :: 'o' :: rest => inBase 8 rest
  | '0' :: 'b' :: rest => inBase 2 rest
  | text =>
      let (negative, rest) := sign text
      unsigned negative rest

end DeviceFlags.Toml.Number
