/-!
# Hexadecimal digits

Digits in both cases, numerals of a fixed width, and the value of a digit.  A
numeral of a fixed width is made of digits alone, and denotes what is left of
its number when the places beyond the width are cut off.
-/

namespace DeviceFlags.Text.Hex

/-- The digit for a value below sixteen, with small letters. -/
def lowerDigit (value : Nat) : Char :=
  if value < 10 then Char.ofNat (0x30 + value) else Char.ofNat (0x57 + value)

/-- The digit for a value below sixteen, with capital letters. -/
def upperDigit (value : Nat) : Char :=
  if value < 10 then Char.ofNat (0x30 + value) else Char.ofNat (0x37 + value)

/-- The last `width` digits of a number, padded with zeros on the left. -/
def padded (digit : Nat → Char) : (width : Nat) → Nat → List Char
  | 0, _ => []
  | width + 1, value => padded digit width (value / 16) ++ [digit (value % 16)]

@[simp] theorem length_padded (digit : Nat → Char) (width value : Nat) :
    (padded digit width value).length = width := by
  induction width generalizing value with
  | zero => rfl
  | succ width ih => simp [padded, ih]

/-- The value of a hexadecimal digit in either case. -/
def value? (c : Char) : Option Nat :=
  if '0' ≤ c ∧ c ≤ '9' then some (c.toNat - 0x30)
  else if 'a' ≤ c ∧ c ≤ 'f' then some (c.toNat - 0x57)
  else if 'A' ≤ c ∧ c ≤ 'F' then some (c.toNat - 0x37)
  else none

/-- The number that a list of digits denotes, most significant digit first. -/
def number? (digits : List Char) : Option Nat :=
  digits.foldlM (fun total c => (value? c).map (16 * total + ·)) 0

/-! ## Reading numerals back -/

theorem mem_padded {digit : Nat → Char} {width value : Nat} {c : Char}
    (member : c ∈ padded digit width value) : ∃ small < 16, c = digit small := by
  induction width generalizing value with
  | zero => simp [padded] at member
  | succ width ih =>
      rw [padded, List.mem_append, List.mem_singleton] at member
      cases member with
      | inl earlier => exact ih earlier
      | inr last => exact ⟨_, Nat.mod_lt _ (by decide), last⟩

theorem value?_upperDigit : ∀ value < 16, value? (upperDigit value) = some value := by
  decide

theorem value?_lowerDigit : ∀ value < 16, value? (lowerDigit value) = some value := by
  decide

theorem number?_append (digits : List Char) (last : Char) :
    number? (digits ++ [last]) =
      (number? digits).bind fun total => (value? last).map (16 * total + ·) := by
  simp only [number?, List.foldlM_append, List.foldlM_cons, List.foldlM_nil, Option.bind_eq_bind]
  congr
  funext total
  cases value? last <;> rfl

/-- A numeral of a fixed width is read as what its digits can hold. -/
theorem number?_padded {digit : Nat → Char}
    (value_digit : ∀ value < 16, value? (digit value) = some value) (width value : Nat) :
    number? (padded digit width value) = some (value % Nat.pow 16 width) := by
  induction width generalizing value with
  | zero => simp [padded, number?, Nat.mod_one]
  | succ width ih =>
      have small : value % 16 < 16 := Nat.mod_lt _ (by decide)
      have places : Nat.pow 16 (width + 1) = 16 * Nat.pow 16 width := Nat.mul_comm _ _
      rw [padded, number?_append, ih, value_digit _ small]
      simp only [Option.bind_some, Option.map_some, Option.some.injEq]
      rw [places, Nat.mod_mul]
      omega

/-- A numeral that is wide enough for its number is read off the front of a text. -/
theorem number?_take_padded {digit : Nat → Char}
    (value_digit : ∀ value < 16, value? (digit value) = some value) {width value : Nat}
    (small : value < Nat.pow 16 width) (rest : List Char) :
    number? ((padded digit width value ++ rest).take width) = some value := by
  rw [List.take_left' (length_padded digit width value), number?_padded value_digit,
    Nat.mod_eq_of_lt small]

theorem drop_padded (digit : Nat → Char) (width value : Nat) (rest : List Char) :
    (padded digit width value ++ rest).drop width = rest :=
  List.drop_left' (length_padded digit width value)

theorem le_length_padded_append (digit : Nat → Char) (width value : Nat) (rest : List Char) :
    width ≤ (padded digit width value ++ rest).length := by
  rw [List.length_append, length_padded]
  exact Nat.le_add_right width rest.length

end DeviceFlags.Text.Hex
