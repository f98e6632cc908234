import Mathlib.Data.String.Basic

/-!
# The order of texts and of their bytes

Texts are compared character by character, and in UTF-8 this is the same as
byte by byte: of two characters the greater one has the greater bytes, whatever
comes behind them.
-/

namespace DeviceFlags.Text

/-- The bytes of a text in UTF-8. -/
def bytes (text : String) : List UInt8 :=
  text.toUTF8.data.toList

theorem bytes_eq_flatMap (text : String) :
    bytes text = text.toList.flatMap String.utf8EncodeChar := by
  rw [bytes, String.toUTF8_eq_toByteArray, ← String.utf8Encode_toList, List.utf8Encode,
    List.data_toByteArray]

theorem cons_ofNat_lt_cons_ofNat {m n : Nat} (fits : m < 256) (fits' : n < 256)
    {first second : List UInt8} :
    UInt8.ofNat m :: first < UInt8.ofNat n :: second ↔ m < n ∨ m = n ∧ first < second := by
  rw [List.cons_lt_cons_iff, UInt8.lt_iff_toNat_lt, ← UInt8.toNat_inj, UInt8.toNat_ofNat',
    UInt8.toNat_ofNat', Nat.mod_eq_of_lt fits, Nat.mod_eq_of_lt fits']

theorem utf8EncodeChar_append_lt {c d : Char} (less : c < d) (first second : List UInt8) :
    String.utf8EncodeChar c ++ first < String.utf8EncodeChar d ++ second := by
  have less : c.val.toNat < d.val.toNat := less
  have bound : d.val.toNat < 0x110000 := by
    have valid := d.valid
    simp only [UInt32.isValidChar, Nat.isValidChar] at valid
    omega
  have places (value : Nat) :
      value / 4096 = value / 64 / 64 ∧ value / 262144 = value / 64 / 64 / 64 := by
    simp only [Nat.div_div_eq_div_mul, Nat.reduceMul, and_self]
  unfold String.utf8EncodeChar
  simp only [(places _).1, (places _).2]
  generalize c.val.toNat = m at *
  generalize d.val.toNat = n at *
  -- A longer form begins with a greater byte.  Forms of one length are numerals
  -- in base 64, the highest place first.
  split_ifs <;>
    first
    | omega
    | simp (disch := omega) only [List.cons_append, cons_ofNat_lt_cons_ofNat]
      omega

theorem flatMap_utf8EncodeChar_lt {first second : List Char} (less : first < second) :
    first.flatMap String.utf8EncodeChar < second.flatMap String.utf8EncodeChar := by
  induction less with
  | @nil c rest =>
      rcases List.exists_cons_of_ne_nil (String.utf8EncodeChar_ne_nil (c := c)) with
        ⟨first, others, bytes⟩
      rw [List.flatMap_nil, List.flatMap_cons, bytes]
      exact List.nil_lt_cons _ _
  | cons _ ih =>
      rw [List.flatMap_cons, List.flatMap_cons]
      exact List.append_left_lt ih
  | rel less =>
      rw [List.flatMap_cons, List.flatMap_cons]
      exact utf8EncodeChar_append_lt less _ _

theorem lt_iff_bytes_lt {first second : String} : first < second ↔ bytes first < bytes second := by
  have monotone {one other : String} (less : one < other) : bytes one < bytes other := by
    rw [bytes_eq_flatMap, bytes_eq_flatMap]
    exact flatMap_utf8EncodeChar_lt (String.lt_iff_toList_lt.1 less)
  constructor
  · exact monotone
  · intro less
    rcases lt_trichotomy first second with before | rfl | behind
    · exact before
    · exact absurd less (List.lt_irrefl _)
    · exact absurd less (List.lt_asymm (monotone behind))

end DeviceFlags.Text
