/-!
# The shortest decimal that reads back

A binary value stands for the interval of reals that round to it.  Among the
decimals in that interval the ones with the fewest digits are the shortest
names of the value, and of those the nearest is taken; an exact tie goes up.
All comparisons are exact, on natural numbers.  A number is written with these
digits, always positionally and always with a decimal point.
-/

namespace DeviceFlags.Decimal

/-- The finite positive value `significand * 2 ^ exponent`. -/
structure Binary where
  significand : Nat
  exponent : Int
  /-- The neighbour below is half as far away as the neighbour above. -/
  narrowBelow : Bool
  deriving DecidableEq, Repr

/-- The magnitude held by the bits of a finite value. -/
def Binary.ofBits (bits : UInt64) : Binary :=
  let exponent := ((bits >>> 52) &&& 0x7FF).toNat
  let fraction := (bits &&& 0xFFFFFFFFFFFFF).toNat
  if exponent = 0 then ⟨fraction, -1074, false⟩
  else ⟨0x10000000000000 + fraction, exponent - 1075, fraction == 0 && exponent > 1⟩

/-- The decimal `digits * 10 ^ exponent`. -/
structure Digits where
  digits : Nat
  exponent : Int
  deriving DecidableEq, Repr

/-- Compares `left * 10 ^ tens` with `right * 2 ^ twos`. -/
def compareScaled (left : Nat) (tens : Int) (right : Nat) (twos : Int) : Ordering :=
  compare (left * Nat.pow 10 tens.toNat * Nat.pow 2 (-twos).toNat)
    (right * Nat.pow 2 twos.toNat * Nat.pow 10 (-tens).toNat)

/-- Whether a decimal lies among the reals that round to the value.  The ends
of the interval, halfway to the neighbours, belong to it when the significand
is even. -/
def Binary.reads (value : Binary) (decimal : Digits) : Bool :=
  let lower := 4 * value.significand - (if value.narrowBelow then 1 else 2)
  let upper := 4 * value.significand + 2
  let closed := value.significand % 2 == 0
  let fromLower := compareScaled decimal.digits decimal.exponent lower (value.exponent - 2)
  let fromUpper := compareScaled decimal.digits decimal.exponent upper (value.exponent - 2)
  (fromLower == .gt || (closed && fromLower == .eq)) &&
    (fromUpper == .lt || (closed && fromUpper == .eq))

/-- A power of ten that is above the value, and at most ten times the least
such power. -/
def Binary.scale (value : Binary) : Int :=
  let numerator := value.significand * Nat.pow 2 value.exponent.toNat
  let denominator := Nat.pow 2 (-value.exponent).toNat
  if denominator ≤ numerator then ((Nat.toDigits 10 (numerator / denominator)).length : Int)
  else 1 - ((Nat.toDigits 10 (denominator / numerator)).length : Int)

/-- The multiple of `10 ^ grid` that names the value, if one of the two next
to it does.  The nearer one is taken, the upper one at a tie. -/
def Binary.onGrid? (value : Binary) (grid : Int) : Option Digits :=
  let numerator :=
    value.significand * Nat.pow 2 value.exponent.toNat * Nat.pow 10 (-grid).toNat
  let denominator := Nat.pow 2 (-value.exponent).toNat * Nat.pow 10 grid.toNat
  let below : Digits := ⟨numerator / denominator, grid⟩
  let above : Digits := ⟨numerator / denominator + 1, grid⟩
  match value.reads below, value.reads above with
  | true, true => if 2 * (numerator % denominator) < denominator then some below else some above
  | true, false => some below
  | false, true => some above
  | false, false => none

/-- The value itself as a decimal. -/
def Binary.exact (value : Binary) : Digits :=
  ⟨value.significand * Nat.pow 2 value.exponent.toNat * Nat.pow 5 (-value.exponent).toNat,
    -((-value.exponent).toNat : Int)⟩

/-- The shortest decimal that reads back, found on the coarsest grid that has
one.  Eighteen grids reach past seventeen digits, which always suffice. -/
def Binary.shortest (value : Binary) : Digits :=
  ((List.range 18).findSome? fun (step : Nat) =>
    value.onGrid? (value.scale - 1 - step)).getD value.exact

/-! ## Positional notation -/

/-- A decimal in positional notation.  An integral decimal ends in `.0`. -/
def Digits.positional (decimal : Digits) : List Char :=
  let digits := Nat.toDigits 10 decimal.digits
  if 0 ≤ decimal.exponent then
    digits ++ List.replicate decimal.exponent.toNat '0' ++ ['.', '0']
  else
    let places := (-decimal.exponent).toNat
    if places < digits.length then
      digits.take (digits.length - places) ++ '.' :: digits.drop (digits.length - places)
    else
      ['0', '.'] ++ List.replicate (places - digits.length) '0' ++ digits

/-- A decimal without trailing zeros in its fraction: while the exponent is
negative and the last digit is zero, both are reduced. -/
def Digits.trimmed (decimal : Digits) : Digits :=
  trim decimal.digits decimal.exponent (-decimal.exponent).toNat
where
  /-- Removes at most `places` zeros. -/
  trim (digits : Nat) (exponent : Int) : (places : Nat) → Digits
    | 0 => ⟨digits, exponent⟩
    | places + 1 =>
        if digits % 10 = 0 then trim (digits / 10) (exponent + 1) places
        else ⟨digits, exponent⟩

/-- The text of a number: the shortest digits in positional notation, the sign
of zero kept, and words for what is not finite. -/
def render (number : Float) : String :=
  let bits := number.toBits
  let sign := if bits >>> 63 = 1 then "-" else ""
  let magnitude := Binary.ofBits (bits &&& 0x7FFFFFFFFFFFFFFF)
  if number.isNaN then "NaN"
  else if number.isInf then sign ++ "inf"
  else if magnitude.significand = 0 then sign ++ "0.0"
  else sign ++ String.ofList magnitude.shortest.trimmed.positional

end DeviceFlags.Decimal
