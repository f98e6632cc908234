import DeviceFlags.Proofs.Toml.StringLiteral.Multiline

/-!
# Reading back string literals

Each form of a literal is read as the text that it was written for.  A file may
end its lines in either way: only a literal with line feeds of its own is
affected, and its reader drops the carriage returns again.
-/

namespace DeviceFlags.Toml.StringLiteral

/-! ## One line -/

theorem basic_close (rest : List Char) : basic ('"' :: rest) = some ([], rest) := by
  rw [basic]
  rfl

theorem basic_stands {c : Char} {written : List Char} (stands : Stands c written)
    (rest : List Char) : basic (written ++ rest) = push c (basic rest) := by
  cases stands with
  | plain isPlain quote backslash =>
      rw [List.singleton_append, basic, if_neg quote, if_neg backslash, if_pos isPlain]
  | escaped behind read _ _ =>
      rw [List.cons_append, basic, if_neg (by decide), if_pos rfl]
      split <;> simp_all

theorem basic_escapeBasic (text rest : List Char) :
    basic (text.flatMap escapeBasic ++ '"' :: rest) = some (text, rest) := by
  induction text with
  | nil => exact basic_close rest
  | cons c text ih =>
      rw [List.flatMap_cons, List.append_assoc, basic_stands (stands_escapeBasic c), ih]
      rfl

theorem literal_verbatim {text : List Char}
    (verbatim : ∀ c ∈ text, isPlain c = true ∧ c ≠ '\'') (rest : List Char) :
    literal (text ++ '\'' :: rest) = some (text, rest) := by
  induction text with
  | nil => rfl
  | cons c text ih =>
      rcases verbatim c List.mem_cons_self with ⟨isPlain, quote⟩
      rw [List.cons_append, literal, if_neg quote, if_pos isPlain,
        ih fun c member => verbatim c (List.mem_cons_of_mem _ member)]
      rfl

/-! ## Any form -/

theorem Form.of_literal {text : List Char} (form : Form.of text = .literal) :
    (∀ c ∈ text, needsEscape c = false) ∧ '\'' ∉ text ∧ '\n' ∉ text := by
  simp only [Form.of] at form
  split at form
  · contradiction
  split at form
  case isTrue plain => simpa [and_assoc] using plain
  case isFalse =>
    split at form
    · contradiction
    split at form
    · contradiction
    split at form <;> contradiction

theorem Form.of_multilineLiteral {text : List Char} (form : Form.of text = .multilineLiteral) :
    (∀ c ∈ text, needsEscape c = false) ∧ hasTriple '\'' text = false := by
  simp only [Form.of] at form
  split at form
  · contradiction
  split at form
  · contradiction
  split at form
  · contradiction
  split at form
  case isTrue verbatim => simpa using verbatim
  case isFalse => split at form <;> contradiction

theorem newline?_cons_of_ne {c : Char} (feed : c ≠ '\n') (carriageReturn : c ≠ '\r')
    (rest : List Char) : newline? (c :: rest) = none := by
  unfold newline?
  split <;> simp_all

theorem Stands.newline?_append {c : Char} {written : List Char} (stands : Stands c written)
    (rest : List Char) : newline? (written ++ rest) = none := by
  cases stands with
  | plain isPlain _ _ =>
      refine newline?_cons_of_ne ?_ ?_ rest <;>
        · rintro rfl
          contradiction
  | escaped => exact newline?_cons_of_ne (by decide) (by decide) _

/-- The line feed behind the opening quotes is dropped, and no other one. -/
theorem dropFirstNewline_opening (ending : LineEnd) {text body : List Char}
    (oneLine : '\n' ∉ text → newline? body = none) :
    dropFirstNewline (ending.write (opening text) ++ body) = body := by
  by_cases newline : '\n' ∈ text
  · rw [opening, if_pos (by simpa using newline), LineEnd.write_cons_newline, LineEnd.write_nil,
      List.append_nil, dropFirstNewline, LineEnd.newline?_chars]
    rfl
  · rw [opening, if_neg (by simpa using newline), LineEnd.write_nil, List.nil_append,
      dropFirstNewline, oneLine newline]
    rfl

theorem newline?_escapeMultiline (ending : LineEnd) {text : List Char} (oneLine : '\n' ∉ text)
    (rest : List Char) :
    newline? (ending.write (escapeMultiline 0 text) ++ '"' :: rest) = none := by
  cases text with
  | nil => rfl
  | cons c text =>
      rw [List.mem_cons, not_or] at oneLine
      rw [escapeMultiline]
      split
      case isTrue => exact newline?_cons_of_ne (by decide) (by decide) _
      case isFalse quote =>
        have stands := stands_escapeChar quote (Ne.symm oneLine.1)
        rw [if_neg (Ne.symm oneLine.1), LineEnd.write_append,
          LineEnd.write_eq_self _ stands.notMem_newline, List.append_assoc, stands.newline?_append]

theorem newline?_verbatim (ending : LineEnd) {text : List Char} (oneLine : '\n' ∉ text)
    (verbatim : ∀ c ∈ text, needsEscape c = false) (rest : List Char) :
    newline? (ending.write text ++ '\'' :: rest) = none := by
  cases text with
  | nil => rfl
  | cons c text =>
      rw [List.mem_cons, not_or] at oneLine
      rw [LineEnd.write_cons_of_ne _ (Ne.symm oneLine.1)]
      refine newline?_cons_of_ne (Ne.symm oneLine.1) ?_ _
      rintro rfl
      have := verbatim '\r' List.mem_cons_self
      contradiction

theorem read_of_not_triple {text : List Char} (basic : ¬['"', '"', '"'] <+: text)
    (literal : ¬['\'', '\'', '\''] <+: text) : read text = line text := by
  unfold read
  split
  · exact absurd ⟨_, rfl⟩ basic
  · exact absurd ⟨_, rfl⟩ literal
  · rfl

theorem read_basic {text rest : List Char} (behind : rest.head? ≠ some '"') :
    read ('"' :: (text.flatMap escapeBasic ++ '"' :: rest)) = some (text, rest) := by
  have notTriple : ¬['"', '"', '"'] <+: '"' :: (text.flatMap escapeBasic ++ '"' :: rest) := by
    intro starts
    rw [List.cons_prefix_cons] at starts
    cases text with
    | nil =>
        rcases (List.cons_prefix_cons.1 starts.2).2 with ⟨others, rfl⟩
        simp at behind
    | cons c text =>
        rcases starts.2 with ⟨others, equal⟩
        refine (stands_escapeBasic c).head?_append_ne
          (text.flatMap escapeBasic ++ '"' :: rest) ?_
        rw [← List.append_assoc, ← List.flatMap_cons, ← equal]
        rfl
  rw [read_of_not_triple notTriple (by simp), line, basic_escapeBasic]

theorem read_literal {text rest : List Char} (behind : rest.head? ≠ some '\'')
    (verbatim : ∀ c ∈ text, isPlain c = true ∧ c ≠ '\'') :
    read ('\'' :: (text ++ '\'' :: rest)) = some (text, rest) := by
  have notTriple : ¬['\'', '\'', '\''] <+: '\'' :: (text ++ '\'' :: rest) := by
    intro starts
    rw [List.cons_prefix_cons] at starts
    cases text with
    | nil =>
        rcases (List.cons_prefix_cons.1 starts.2).2 with ⟨others, rfl⟩
        simp at behind
    | cons c text =>
        rcases starts.2 with ⟨others, equal⟩
        exact (verbatim c List.mem_cons_self).2 (List.cons.inj equal).1.symm
  rw [read_of_not_triple (by simp) notTriple, line, literal_verbatim verbatim]

/-- A string literal is read as the text it was written for, whatever ends the
lines of the file. -/
theorem read_print (ending : LineEnd) (text : List Char) {rest : List Char}
    (behind : rest.head? ≠ some '"' ∧ rest.head? ≠ some '\'') :
    read (ending.write (print text) ++ rest) = some (text, rest) := by
  unfold print
  split
  case h_1 =>
    have oneLine : '\n' ∉ '"' :: text.flatMap escapeBasic ++ ['"'] := by
      simp
      exact fun c _ => (stands_escapeBasic c).notMem_newline
    rw [LineEnd.write_eq_self _ oneLine]
    simpa using read_basic behind.1
  case h_2 form =>
    rcases Form.of_literal form with ⟨verbatim, quote, oneLine⟩
    rw [LineEnd.write_eq_self _ (by simpa using oneLine)]
    have plain : ∀ c ∈ text, isPlain c = true ∧ c ≠ '\'' := by
      intro c member
      refine ⟨isPlain_of_not_needsEscape (verbatim c member) ?_, ?_⟩ <;>
        · rintro rfl
          contradiction
    simpa using read_literal behind.2 plain
  case h_3 =>
    simp only [LineEnd.write_append, List.append_assoc]
    rw [LineEnd.write_eq_self _ (by decide)]
    simp only [List.cons_append, List.nil_append, read]
    rw [dropFirstNewline_opening ending fun oneLine => newline?_escapeMultiline ending oneLine _]
    exact multilineBasic_escapeMultiline ending (Nat.zero_le 2) text behind.1
  case h_4 form =>
    rcases Form.of_multilineLiteral form with ⟨verbatim, triple⟩
    simp only [LineEnd.write_append, List.append_assoc]
    rw [LineEnd.write_eq_self _ (by decide)]
    simp only [List.cons_append, List.nil_append, read]
    rw [dropFirstNewline_opening ending fun oneLine =>
      newline?_verbatim ending oneLine verbatim _]
    exact multilineLiteral_write ending verbatim triple behind.2

end DeviceFlags.Toml.StringLiteral
