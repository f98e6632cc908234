import DeviceFlags.Text.Hex
import DeviceFlags.Toml.StringLiteral.Printer
import DeviceFlags.Toml.StringLiteral.Reader

/-!
# Characters between double quotes

The writer puts a character down as itself or as an escape, and the readers
take either back as that character.  `Stands` says what both forms have in
common for a reader, so that no later proof looks at the table of escapes.
-/

namespace DeviceFlags.Toml.StringLiteral

theorem isPlain_of_not_needsEscape {c : Char} (unescaped : needsEscape c = false)
    (other : c ≠ '\n') : isPlain c = true := by
  have notFeed : c.toNat ≠ 0x0A := fun equal => other (Char.toNat_inj.1 equal)
  simp only [needsEscape, Bool.or_eq_false_iff, Bool.and_eq_false_iff, decide_eq_false_iff_not,
    beq_eq_false_iff_ne] at unescaped
  simp only [isPlain, Bool.or_eq_true, Bool.and_eq_true, beq_iff_eq, decide_eq_true_eq,
    bne_iff_ne, ne_eq]
  by_cases tab : c = '\t'
  · exact Or.inl tab
  · have notTab : c.toNat ≠ 0x09 := fun equal => tab (Char.toNat_inj.1 equal)
    right
    omega

theorem scalar?_toNat (c : Char) : scalar? c.toNat = some c := by
  have valid := c.valid
  simp only [UInt32.isValidChar, Nat.isValidChar] at valid
  have inRange : c.toNat < 0xD800 ∨ 0xDFFF < c.toNat ∧ c.toNat < 0x110000 := valid
  simp [scalar?, inRange, Char.ofNat_toNat]

theorem codePoint_padded {c : Char} (small : c.toNat < 0x10000) (rest : List Char) :
    codePoint 4 (Text.Hex.padded Text.Hex.upperDigit 4 c.toNat ++ rest) = some (c, rest) := by
  rw [codePoint, if_pos (Text.Hex.le_length_padded_append _ _ _ _),
    Text.Hex.number?_take_padded Text.Hex.value?_upperDigit small, Text.Hex.drop_padded]
  simp [scalar?_toNat]

theorem continued?_cons_of_ne {c : Char} (space : isSpace c = false) (feed : c ≠ '\n')
    (carriageReturn : c ≠ '\r') (rest : List Char) : continued? (c :: rest) = none := by
  simp only [continued?, skipSpace, List.dropWhile_cons, space, Bool.false_eq_true, if_false,
    Option.map_eq_none_iff]
  unfold newline?
  split <;> simp_all

/-- How a character stands between double quotes: for itself, or behind a
backslash that does not continue a line. -/
inductive Stands (c : Char) : List Char → Prop where
  | plain (isPlain : isPlain c = true) (quote : c ≠ '"') (backslash : c ≠ '\\') : Stands c [c]
  | escaped (behind : List Char)
      (read : ∀ rest, escape (behind ++ rest) = some (c, rest))
      (stays : ∀ rest, continued? (behind ++ rest) = none)
      (oneLine : '\n' ∉ behind) : Stands c ('\\' :: behind)

/-- An escape of one letter that can be seen. -/
theorem Stands.letter {c e : Char} (read : ∀ rest, escape (e :: rest) = some (c, rest))
    (seen : 0x20 < e.toNat) : Stands c ['\\', e] := by
  have ne {other : Char} (unseen : other.toNat ≤ 0x20) : e ≠ other := by
    intro equal
    subst equal
    exact Nat.not_lt_of_le unseen seen
  have feed : e ≠ '\n' := ne (by decide)
  have space : isSpace e = false := by
    rw [isSpace, beq_eq_false_iff_ne.2 (ne (by decide)), beq_eq_false_iff_ne.2 (ne (by decide))]
    rfl
  apply Stands.escaped [e] read
  · exact continued?_cons_of_ne space feed (ne (by decide))
  · rw [List.mem_singleton]
    exact Ne.symm feed

theorem Stands.notMem_newline {c : Char} {written : List Char} (stands : Stands c written) :
    '\n' ∉ written := by
  cases stands with
  | plain isPlain _ _ =>
      rw [List.mem_singleton]
      rintro rfl
      contradiction
  | escaped behind _ _ oneLine => simpa using oneLine

theorem Stands.head?_append_ne {c : Char} {written : List Char} (stands : Stands c written)
    (rest : List Char) : (written ++ rest).head? ≠ some '"' := by
  cases stands <;> simp_all

theorem notMem_newline_padded (width value : Nat) :
    '\n' ∉ Text.Hex.padded Text.Hex.upperDigit width value := by
  intro member
  rcases Text.Hex.mem_padded member with ⟨small, bound, equal⟩
  revert small
  decide

theorem stands_escapeChar {c : Char} (quote : c ≠ '"') (feed : c ≠ '\n') :
    Stands c (escapeChar c) := by
  unfold escapeChar
  split
  case isTrue equal =>
    subst equal
    exact .letter (fun _ => rfl) (by decide)
  case isFalse backslash =>
  split
  case isTrue equal =>
    obtain rfl : c = '\x08' := Char.toNat_inj.1 equal
    exact .letter (fun _ => rfl) (by decide)
  case isFalse =>
  split
  case isTrue equal =>
    subst equal
    exact .letter (fun _ => rfl) (by decide)
  case isFalse =>
  split
  case isTrue equal =>
    obtain rfl : c = '\x0c' := Char.toNat_inj.1 equal
    exact .letter (fun _ => rfl) (by decide)
  case isFalse =>
  split
  case isTrue equal =>
    subst equal
    exact .letter (fun _ => rfl) (by decide)
  case isFalse =>
  split
  case isTrue control =>
    have small : c.toNat < 0x10000 := by
      simp [needsEscape] at control
      omega
    exact .escaped _ (fun rest => codePoint_padded small rest)
      (fun rest => continued?_cons_of_ne rfl (by decide) (by decide) _)
      (by simpa using notMem_newline_padded 4 c.toNat)
  case isFalse unescaped =>
    exact .plain (isPlain_of_not_needsEscape (by simpa using unescaped) feed) quote backslash

theorem stands_escapeBasic (c : Char) : Stands c (escapeBasic c) := by
  unfold escapeBasic
  split
  case isTrue equal =>
    subst equal
    exact .letter (fun _ => rfl) (by decide)
  case isFalse quote =>
  split
  case isTrue equal =>
    subst equal
    exact .letter (fun _ => rfl) (by decide)
  case isFalse feed => exact stands_escapeChar quote feed

end DeviceFlags.Toml.StringLiteral
