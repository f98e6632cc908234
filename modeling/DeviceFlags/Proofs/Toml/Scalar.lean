import DeviceFlags.Proofs.Toml.Front.Scalar

/-!
# Values without brackets

What is read without an opening bracket or brace is a text, a number, a truth
value, or a date or time.  Behind a bracket stands an array, behind a brace an
inline table; an array of tables is never the value of an assignment.
-/

namespace DeviceFlags.Toml

/-- A value that holds no other values. -/
inductive Value.IsScalar : Value → Prop where
  | string (text : String) : IsScalar (.string text)
  | integer (number : Int) : IsScalar (.integer number)
  | float (number : Float) : IsScalar (.float number)
  | truth (value : Bool) : IsScalar (.truth value)
  | moment (moment : Moment) : IsScalar (.moment moment)

namespace Number

theorem isScalar_of_integer? {number : Int} {value : Value} (fits : integer? number = some value) :
    value.IsScalar := by
  unfold integer? at fits
  split at fits
  case isTrue =>
    cases fits
    exact .integer number
  case isFalse => cases fits

theorem isScalar_of_float? {negative : Bool} {digits : Nat} {exponent : Int} {value : Value}
    (fits : float? negative digits exponent = some value) : value.IsScalar := by
  unfold float? at fits
  grind [Value.IsScalar]

theorem isScalar_of_inBase {base : Nat} {text rest : List Char} {value : Value}
    (read : inBase base text = some (value, rest)) : value.IsScalar := by
  rcases Option.bind_eq_some_iff.1 read with ⟨⟨found, behind⟩, -, read⟩
  rcases Option.bind_eq_some_iff.1 read with ⟨number, fits, ⟨⟩⟩
  exact isScalar_of_integer? fits

theorem isScalar_of_decimal {negative : Bool} {text rest : List Char} {value : Value}
    (read : decimal negative text = some (value, rest)) : value.IsScalar := by
  rcases Option.bind_eq_some_iff.1 read with ⟨⟨found, behind⟩, -, read⟩
  simp only at read
  split at read
  case h_1 =>
    rcases Option.bind_eq_some_iff.1 read with ⟨number, fits, ⟨⟩⟩
    exact isScalar_of_float? fits
  case h_2 =>
    split at read
    case isTrue =>
      rcases Option.bind_eq_some_iff.1 read with ⟨number, fits, ⟨⟩⟩
      exact isScalar_of_integer? fits
    case isFalse =>
      rcases Option.bind_eq_some_iff.1 read with ⟨number, fits, ⟨⟩⟩
      exact isScalar_of_float? fits

theorem isScalar_of_unsigned {negative : Bool} {text rest : List Char} {value : Value}
    (read : unsigned negative text = some (value, rest)) : value.IsScalar := by
  unfold unsigned at read
  split at read
  case h_1 =>
    cases read
    exact .float _
  case h_2 =>
    cases read
    exact .float _
  case h_3 => exact isScalar_of_decimal read

theorem isScalar_of_read {text rest : List Char} {value : Value}
    (read : Number.read text = some (value, rest)) : value.IsScalar := by
  unfold Number.read at read
  split at read
  case h_1 => exact isScalar_of_inBase read
  case h_2 => exact isScalar_of_inBase read
  case h_3 => exact isScalar_of_inBase read
  case h_4 => exact isScalar_of_unsigned read

end Number

namespace Value

theorem isScalar_of_scalar {text rest : List Char} {value : Value}
    (read : scalar text = some (value, rest)) : value.IsScalar := by
  unfold scalar at read
  split at read
  case h_1 =>
    cases read
    exact .string _
  case h_2 =>
    split at read
    case h_1 =>
      cases read
      exact .truth true
    case h_2 =>
      cases read
      exact .truth false
    case h_3 =>
      split at read
      case h_1 =>
        cases read
        exact .moment _
      case h_2 => exact Number.isScalar_of_read read

/-- Each element of an array has been read by the reader for elements, where it
stands in the array. -/
theorem exists_of_mem_elements {reader : Reader Value} {text rest : List Char}
    {values : List Value} (read : elements reader text = some (values, rest)) {value : Value}
    (member : value ∈ values) :
    ∃ front behind, reader front = some (value, behind) ∧
      (Reader.TakesFront reader → front <:+ text) := by
  have same : (Reader.separated ',' (Reader.between skipLayout reader) text).1 = values := by
    simp only [elements] at read
    split at read
    case h_1 =>
      cases read
      rfl
    case h_2 =>
      split at read
      case h_1 =>
        cases read
        rfl
      case h_2 => cases read
    case h_3 => cases read
  rw [← same] at member
  rcases Reader.exists_of_mem_separated member with ⟨front, behind, between, within⟩
  rcases Option.map_eq_some_iff.1 between with ⟨⟨value', behind'⟩, valueRead, ⟨⟩⟩
  refine ⟨_, _, valueRead, ?_⟩
  intro takes
  exact (suffix_skipLayout front).trans
    (within (Reader.takesFront_between takes suffix_skipLayout))

/-- A value made by headers in double brackets. -/
def IsTables (value : Value) : Prop :=
  ∃ earlier last, value = .tables earlier last

theorem not_isTables_of_readWithin {depth : Nat} {text rest : List Char} {value : Value}
    (read : readWithin depth text = some (value, rest)) : ¬value.IsTables := by
  have not_isTables_of_scalar {text : List Char} (read : scalar text = some (value, rest)) :
      ¬value.IsTables := by
    rintro ⟨earlier, last, rfl⟩
    cases isScalar_of_scalar read
  cases depth with
  | zero => exact not_isTables_of_scalar read
  | succ depth =>
      unfold readWithin at read
      split at read
      case h_1 =>
        rcases Option.map_eq_some_iff.1 read with ⟨⟨values, behind⟩, _, ⟨⟩⟩
        rintro ⟨earlier, last, ⟨⟩⟩
      case h_2 =>
        rcases Option.map_eq_some_iff.1 read with ⟨⟨entries, behind⟩, _, ⟨⟩⟩
        rintro ⟨earlier, last, ⟨⟩⟩
      case h_3 => exact not_isTables_of_scalar read

end Value

end DeviceFlags.Toml
