import DeviceFlags.Proofs.Toml.Reader
import DeviceFlags.Proofs.Toml.StringLiteral.RoundTrip
import DeviceFlags.Toml.Document

/-!
# Reading lines

A line that gives a string or an empty array to a word, and a header of one
word, are read as what they say, with whatever text behind them.  Reading a
text then goes line by line.
-/

namespace DeviceFlags.Toml

theorem skipSpace_cons_of_not {c : Char} (solid : isSpace c = false) (rest : List Char) :
    skipSpace (c :: rest) = c :: rest := by
  rw [skipSpace, List.dropWhile_cons, solid]
  rfl

/-! ## Keys and values -/

/-- A word that can be a key without quotes. -/
structure IsBareKey (word : List Char) : Prop where
  nonempty : word ≠ []
  all_bare : word.all isBareKeyChar = true

namespace IsBareKey

variable {word : List Char} (key : IsBareKey word)
include key

theorem bare : ∀ c ∈ word, isBareKeyChar c = true :=
  List.all_eq_true.1 key.all_bare

theorem exists_cons : ∃ c rest, word = c :: rest ∧ isBareKeyChar c = true := by
  cases word with
  | nil => exact absurd rfl key.nonempty
  | cons c rest => exact ⟨c, rest, rfl, key.bare c List.mem_cons_self⟩

theorem line_append (rest : List Char) : StringLiteral.line (word ++ rest) = none := by
  rcases key.exists_cons with ⟨c, behind, rfl, bare⟩
  rw [List.cons_append]
  unfold StringLiteral.line
  split
  case h_1 equal =>
    cases equal
    contradiction
  case h_2 equal =>
    cases equal
    contradiction
  case h_3 => rfl

theorem skipSpace_append (rest : List Char) : skipSpace (word ++ rest) = word ++ rest := by
  rcases key.exists_cons with ⟨c, behind, rfl, bare⟩
  apply skipSpace_cons_of_not
  rw [Bool.eq_false_iff]
  intro space
  simp only [isSpace, Bool.or_eq_true, beq_iff_eq] at space
  rcases space with rfl | rfl <;> contradiction

theorem keyPart_append {mark : Char} (ends : isBareKeyChar mark = false) (rest : List Char) :
    keyPart (word ++ mark :: rest) = some (String.ofList word, mark :: rest) := by
  have take : (word ++ mark :: rest).takeWhile isBareKeyChar = word := by
    rw [List.takeWhile_append_of_pos key.bare, List.takeWhile_cons, ends]
    simp
  have drop : (word ++ mark :: rest).dropWhile isBareKeyChar = mark :: rest := by
    rw [List.dropWhile_append_of_pos key.bare, List.dropWhile_cons, ends]
    simp
  have nonempty : word.isEmpty = false := by simpa using key.nonempty
  simp only [keyPart, key.line_append, take, drop, nonempty, Bool.false_eq_true, if_false]

theorem keyPath_append {mark : Char} {rest : List Char} (ends : isBareKeyChar mark = false)
    (single : (skipSpace (mark :: rest)).head? ≠ some '.') :
    KeyPath.read (word ++ mark :: rest) =
      some (⟨[], String.ofList word⟩, skipSpace (mark :: rest)) := by
  have first : Reader.between skipSpace keyPart (word ++ mark :: rest) =
      some (String.ofList word, skipSpace (mark :: rest)) := by
    rw [Reader.between, key.skipSpace_append, key.keyPart_append ends]
    rfl
  simp only [KeyPath.read, Reader.separated, first, Reader.many_of_none (Reader.after_of_ne single)]
  rfl

end IsBareKey

theorem StringLiteral.print_eq_cons (text : List Char) :
    ∃ quote rest, StringLiteral.print text = quote :: rest ∧ (quote = '"' ∨ quote = '\'') := by
  unfold StringLiteral.print
  split <;> simp

theorem Value.readWithin_succ_cons {c : Char} (bracket : c ≠ '[') (brace : c ≠ '{') (depth : Nat)
    (rest : List Char) : readWithin (depth + 1) (c :: rest) = scalar (c :: rest) := by
  unfold readWithin
  split <;> simp_all

theorem StringLiteral.exists_cons_of_print (ending : LineEnd) (text : List Char) :
    ∃ quote rest, ending.write (StringLiteral.print text) = quote :: rest ∧
      (quote = '"' ∨ quote = '\'') := by
  rcases StringLiteral.print_eq_cons text with ⟨quote, rest, written, isQuote⟩
  have notFeed : quote ≠ '\n' := by
    rintro rfl
    simp at isQuote
  exact ⟨quote, ending.write rest, by rw [written, LineEnd.write_cons_of_ne _ notFeed], isQuote⟩

theorem Value.scalar_of_string {text characters rest : List Char}
    (read : StringLiteral.read text = some (characters, rest)) :
    scalar text = some (.string (String.ofList characters), rest) := by
  unfold scalar
  rw [read]

theorem Value.read_print (ending : LineEnd) (text : String) {rest : List Char}
    (behind : rest.head? ≠ some '"' ∧ rest.head? ≠ some '\'') :
    Value.read (ending.write (StringLiteral.print text.toList) ++ rest) =
      some (.string text, rest) := by
  have scalar := Value.scalar_of_string (StringLiteral.read_print ending text.toList behind)
  rcases StringLiteral.exists_cons_of_print ending text.toList with
    ⟨quote, others, written, isQuote⟩
  have bracket : quote ≠ '[' := by
    rintro rfl
    simp at isQuote
  have brace : quote ≠ '{' := by
    rintro rfl
    simp at isQuote
  rw [String.ofList_toList, written] at scalar
  rw [written, List.cons_append, Value.read, nestingLimit,
    Value.readWithin_succ_cons bracket brace 78]
  exact scalar

theorem fixedField_of_not_digit {c : Char} (other : c.isDigit = false)
    (width least most : Nat) (rest : List Char) :
    fixedField (width + 1) least most (c :: rest) = none := by
  simp [fixedField, other]

theorem Value.scalar_bracket (rest : List Char) : scalar (']' :: rest) = none := by
  have moment : Moment.read (']' :: rest) = none := by
    simp [Moment.read, Date.read, Time.read, fixedField_of_not_digit]
  have number : Number.read (']' :: rest) = none := rfl
  simp [scalar, StringLiteral.read, StringLiteral.line, moment, number]

theorem Value.read_emptyArray (rest : List Char) :
    Value.read ('[' :: ']' :: rest) = some (.array [], rest) := by
  have closing : skipLayout (']' :: rest) = ']' :: rest := rfl
  have none : Reader.between skipLayout (readWithin 78) (']' :: rest) = none := by
    rw [Reader.between, closing, Value.readWithin_succ_cons (by decide) (by decide) 77,
      Value.scalar_bracket]
    rfl
  have separated : Reader.separated ',' (Reader.between skipLayout (readWithin 78))
      (']' :: rest) = ([], ']' :: rest) := by
    rw [Reader.separated, none]
  have noElements : Value.elements (readWithin 78) (']' :: rest) = some ([], rest) := by
    simp only [Value.elements, separated, closing]
  have array : Value.readWithin (78 + 1) ('[' :: ']' :: rest) =
      Reader.map .array (elements (readWithin 78)) (']' :: rest) := rfl
  rw [Value.read, nestingLimit, array]
  simp only [Reader.map, noElements]
  rfl

/-! ## Lines -/

theorem lineEnd?_chars (ending : LineEnd) (rest : List Char) :
    lineEnd? (ending.chars ++ rest) = some rest := by
  cases ending <;> rfl

theorem Line.read_blank (ending : LineEnd) (rest : List Char) :
    Line.read (ending.chars ++ rest) = some (none, rest) := by
  cases ending <;> rfl

theorem Line.read_element (ending : LineEnd) {word : List Char} (key : IsBareKey word)
    (rest : List Char) :
    Line.read ('[' :: '[' :: (word ++ ']' :: ']' :: (ending.chars ++ rest))) =
      some (some (.header (.element ⟨[], String.ofList word⟩)), rest) := by
  have path : KeyPath.read (word ++ ']' :: ']' :: (ending.chars ++ rest)) =
      some (⟨[], String.ofList word⟩, ']' :: ']' :: (ending.chars ++ rest)) :=
    key.keyPath_append rfl (by rw [skipSpace_cons_of_not rfl]; simp)
  have header : Header.read ('[' :: '[' :: (word ++ ']' :: ']' :: (ending.chars ++ rest))) =
      some (.element ⟨[], String.ofList word⟩, ending.chars ++ rest) := by
    rw [Header.read, path]
    rfl
  rw [Line.read, skipSpace_cons_of_not rfl, Line.content]
  simp only [Reader.map, header, Option.map_some, Option.bind_eq_bind, Option.bind_some,
    lineEnd?_chars]
  rfl

theorem Line.content_bare {word : List Char} (key : IsBareKey word) (rest : List Char) :
    Line.content (word ++ rest) =
      Reader.map (some ∘ .assignment) (Assignment.read Value.read) (word ++ rest) := by
  rcases key.exists_cons with ⟨c, behind, rfl, bare⟩
  rw [List.cons_append]
  unfold Line.content
  split <;> simp_all [isBareKeyChar]

theorem Assignment.read_bare {word : List Char} (key : IsBareKey word) {reader : Reader Value}
    {text rest : List Char} {value : Value} (reads : reader (skipSpace text) = some (value, rest)) :
    Assignment.read reader (word ++ ' ' :: '=' :: text) =
      some (⟨⟨[], String.ofList word⟩, value⟩, rest) := by
  have path : KeyPath.read (word ++ ' ' :: '=' :: text) =
      some (⟨[], String.ofList word⟩, '=' :: text) :=
    key.keyPath_append rfl (by simp [skipSpace, isSpace])
  simp [Assignment.read, path, expect, reads]

/-- A line that gives a value to a word. -/
theorem Line.read_bare (ending : LineEnd) {word : List Char} (key : IsBareKey word)
    {text rest : List Char} {value : Value}
    (reads : Value.read (skipSpace text) = some (value, ending.chars ++ rest)) :
    Line.read (word ++ ' ' :: '=' :: text) =
      some (some (.assignment ⟨⟨[], String.ofList word⟩, value⟩), rest) := by
  rw [Line.read, key.skipSpace_append, Line.content_bare key, Reader.map,
    Assignment.read_bare key reads]
  simp [lineEnd?_chars]

theorem skipSpace_print (ending : LineEnd) (text rest : List Char) :
    skipSpace (' ' :: (ending.write (StringLiteral.print text) ++ rest)) =
      ending.write (StringLiteral.print text) ++ rest := by
  rcases StringLiteral.exists_cons_of_print ending text with ⟨quote, others, written, isQuote⟩
  have solid : isSpace quote = false := by
    rcases isQuote with rfl | rfl <;> rfl
  rw [written, List.cons_append, skipSpace, List.dropWhile_cons_of_pos rfl]
  exact skipSpace_cons_of_not solid _

theorem Line.read_string (ending : LineEnd) {word : List Char} (key : IsBareKey word)
    (text : String) (rest : List Char) :
    Line.read (word ++ ' ' :: '=' :: ' ' ::
        (ending.write (StringLiteral.print text.toList) ++ (ending.chars ++ rest))) =
      some (some (.assignment ⟨⟨[], String.ofList word⟩, .string text⟩), rest) := by
  have behind : (ending.chars ++ rest).head? ≠ some '"' ∧
      (ending.chars ++ rest).head? ≠ some '\'' := by
    cases ending <;> simp [LineEnd.chars]
  apply Line.read_bare ending key
  rw [skipSpace_print, Value.read_print ending text behind]

theorem Line.read_emptyArray (ending : LineEnd) {word : List Char} (key : IsBareKey word)
    (rest : List Char) :
    Line.read (word ++ ' ' :: '=' :: ' ' :: '[' :: ']' :: (ending.chars ++ rest)) =
      some (some (.assignment ⟨⟨[], String.ofList word⟩, .array []⟩), rest) := by
  apply Line.read_bare ending key
  rw [skipSpace, List.dropWhile_cons_of_pos rfl, List.dropWhile_cons_of_neg (by decide)]
  exact Value.read_emptyArray _

/-! ## Documents -/

/-- The lines of a document that are not blank. -/
def lines? (text : List Char) : Option (List Line) :=
  (Reader.all? Line.read text).map (·.filterMap id)

theorem parse?_eq (text : List Char) :
    parse? text = (lines? (dropByteOrderMark text)).bind Entries.ofLines? := by
  rw [parse?, lines?]
  cases Reader.all? Line.read (dropByteOrderMark text) <;> rfl

theorem lines?_nil : lines? [] = some [] := by
  rw [lines?, Reader.all?_nil]
  rfl

theorem lines?_cons {text rest : List Char} {line : Line}
    (reads : Line.read text = some (some line, rest)) (shorter : rest.length < text.length) :
    lines? text = (lines? rest).map (line :: ·) := by
  rw [lines?, Reader.all?_cons reads shorter, lines?]
  cases Reader.all? Line.read rest <;> rfl

theorem lines?_blank (ending : LineEnd) (rest : List Char) :
    lines? (ending.chars ++ rest) = lines? rest := by
  have shorter : rest.length < (ending.chars ++ rest).length := by
    have := ending.length_chars_pos
    rw [List.length_append]
    omega
  rw [lines?, Reader.all?_cons (Line.read_blank ending rest) shorter, lines?]
  cases Reader.all? Line.read rest <;> rfl

end DeviceFlags.Toml
