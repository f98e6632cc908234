import DeviceFlags.Text.CharClass

/-!
# Lines and words of a text

A line ends at a line feed; a carriage return right before the line feed
belongs to the line end.  A last line without a line feed counts if it holds
anything.  A text made of lines, each with a line feed behind it, has these
lines, unless one holds a line feed itself or ends with a carriage return.

A word is a longest piece of a text without white space.  A text that is made of
words with a blank behind each has these words and no others.
-/

namespace DeviceFlags.Text

/-! ## Lines -/

/-- Splits at line feeds.  The piece after the last one is kept, so the result
is never empty. -/
def splitLines : List Char → List (List Char)
  | [] => [[]]
  | c :: rest =>
      match splitLines rest with
      | [] => [[c]]
      | line :: lines => if c = '\n' then [] :: line :: lines else (c :: line) :: lines

/-- Drops one carriage return from the end of a line. -/
def dropReturn (line : List Char) : List Char :=
  if line.getLast? = some '\r' then line.dropLast else line

/-- The lines of a text, without their ends. -/
def lines (text : List Char) : List (List Char) :=
  let pieces := splitLines text
  let ended := pieces.dropLast.map dropReturn
  match pieces.getLast? with
  | none => ended
  | some last => if last.isEmpty then ended else ended ++ [last]

/-! ## Where a text is split -/

theorem splitLines_ne_nil (text : List Char) : splitLines text ≠ [] := by
  cases text with
  | nil => exact List.cons_ne_nil _ _
  | cons c rest =>
      rw [splitLines]
      split
      · exact List.cons_ne_nil _ _
      · split <;> exact List.cons_ne_nil _ _

theorem splitLines_cons_newline (rest : List Char) :
    splitLines ('\n' :: rest) = [] :: splitLines rest := by
  rw [splitLines]
  cases pieces : splitLines rest with
  | nil => exact absurd pieces (splitLines_ne_nil rest)
  | cons line lines => rfl

theorem splitLines_cons_of_ne {c : Char} (ne : c ≠ '\n') {rest line : List Char}
    {lines : List (List Char)} (pieces : splitLines rest = line :: lines) :
    splitLines (c :: rest) = (c :: line) :: lines := by
  rw [splitLines, pieces]
  exact if_neg ne

/-- A line feed ends a line, whatever stands before it. -/
theorem splitLines_append_newline (text rest : List Char) :
    splitLines (text ++ '\n' :: rest) = splitLines text ++ splitLines rest := by
  induction text with
  | nil => exact splitLines_cons_newline rest
  | cons c text ih =>
      by_cases feed : c = '\n'
      · rw [feed, List.cons_append, splitLines_cons_newline, splitLines_cons_newline, ih]
        rfl
      · cases pieces : splitLines text with
        | nil => exact absurd pieces (splitLines_ne_nil text)
        | cons line lines =>
            rw [pieces] at ih
            rw [List.cons_append, splitLines_cons_of_ne feed ih, splitLines_cons_of_ne feed pieces]
            rfl

theorem length_splitLines (text : List Char) :
    (splitLines text).length = text.count '\n' + 1 := by
  induction text with
  | nil => rfl
  | cons c text ih =>
      by_cases feed : c = '\n'
      · rw [feed, splitLines_cons_newline, List.length_cons, ih, List.count_cons_self]
      · cases pieces : splitLines text with
        | nil => exact absurd pieces (splitLines_ne_nil text)
        | cons line lines =>
            rw [splitLines_cons_of_ne feed pieces, List.count_cons_of_ne feed, ← ih, pieces]
            rfl

theorem splitLines_of_notMem {line : List Char} (within : '\n' ∉ line) :
    splitLines line = [line] := by
  induction line with
  | nil => rfl
  | cons c line ih =>
      rw [List.mem_cons, not_or] at within
      exact splitLines_cons_of_ne (Ne.symm within.1) (ih within.2)

/-- Texts with a line feed behind each have their lines one after another. -/
theorem splitLines_flatMap (texts : List (List Char)) (last : List Char) :
    splitLines (texts.flatMap (· ++ ['\n']) ++ last) =
      texts.flatMap splitLines ++ splitLines last := by
  induction texts with
  | nil => rfl
  | cons text texts ih =>
      rw [List.flatMap_cons, List.append_assoc, List.append_assoc, List.singleton_append,
        splitLines_append_newline, ih, List.flatMap_cons, List.append_assoc]

/-- The lines of texts with a line feed behind each. -/
theorem lines_flatMap_splitLines (texts : List (List Char)) :
    lines (texts.flatMap (· ++ ['\n'])) = (texts.flatMap splitLines).map dropReturn := by
  have pieces := splitLines_flatMap texts []
  rw [List.append_nil] at pieces
  simp only [lines, pieces, splitLines, List.dropLast_concat, List.getLast?_concat,
    List.isEmpty_nil, if_pos]

section JoinedLines

variable {lines : List (List Char)} {last : List Char}

theorem flatMap_splitLines_eq_self (within : ∀ line ∈ lines, '\n' ∉ line) :
    lines.flatMap splitLines = lines := by
  induction lines with
  | nil => rfl
  | cons line lines ih =>
      rw [List.forall_mem_cons] at within
      rw [List.flatMap_cons, splitLines_of_notMem within.1, ih within.2, List.singleton_append]

theorem dropReturn_eq_self {line : List Char} (kept : line.getLast? ≠ some '\r') :
    dropReturn line = line :=
  if_neg kept

theorem map_dropReturn_eq_self (kept : ∀ line ∈ lines, line.getLast? ≠ some '\r') :
    lines.map dropReturn = lines := by
  rw [List.map_congr_left fun line member => dropReturn_eq_self (kept line member)]
  exact List.map_id' lines

/-- The lines of a text with a line feed behind each line. -/
theorem lines_flatMap_newline (within : ∀ line ∈ lines, '\n' ∉ line)
    (kept : ∀ line ∈ lines, line.getLast? ≠ some '\r') :
    Text.lines (lines.flatMap (· ++ ['\n'])) = lines := by
  rw [lines_flatMap_splitLines, flatMap_splitLines_eq_self within, map_dropReturn_eq_self kept]

theorem count_newline_flatMap (within : ∀ line ∈ lines, '\n' ∉ line) :
    (lines.flatMap (· ++ ['\n'])).count '\n' = lines.length := by
  induction lines with
  | nil => rfl
  | cons line lines ih =>
      rw [List.forall_mem_cons] at within
      rw [List.flatMap_cons, List.count_append, List.count_append,
        List.count_eq_zero_of_not_mem within.1, ih within.2, List.count_singleton_self,
        List.length_cons]
      omega

/-- The lines of a text whose last line has no line feed behind it. -/
theorem lines_flatMap (within : ∀ line ∈ lines, '\n' ∉ line)
    (kept : ∀ line ∈ lines, line.getLast? ≠ some '\r') (lastWithin : '\n' ∉ last)
    (nonempty : last ≠ []) :
    Text.lines (lines.flatMap (· ++ ['\n']) ++ last) = lines ++ [last] := by
  have some : last.isEmpty = false := List.isEmpty_eq_false_iff.2 nonempty
  simp only [Text.lines, splitLines_flatMap, flatMap_splitLines_eq_self within,
    splitLines_of_notMem lastWithin, List.dropLast_concat, List.getLast?_concat,
    map_dropReturn_eq_self kept, some, Bool.false_eq_true, if_false]

end JoinedLines

/-! ## Words -/

/-- The words of a text, in their order. -/
def words (text : List Char) : List (List Char) :=
  (text.splitOnP whiteSpace.contains).filter (!·.isEmpty)

/-- A word as it can stand in a text: it is not empty and holds no blank. -/
structure IsWord (word : List Char) : Prop where
  nonempty : word ≠ []
  solid : ∀ c ∈ word, c ∉ whiteSpace

theorem isWord_toList {text : String} (nonempty : text ≠ "") (noBlank : hasBlank text = false) :
    IsWord text.toList where
  nonempty empty := nonempty (String.toList_eq_nil_iff.1 empty)
  solid c member blank := by
    have held : hasBlank text = true := hasBlank_iff.2 ⟨c, member, blank⟩
    rw [noBlank] at held
    cases held

namespace IsWord

variable {word : List Char}

theorem newline_notMem (isWord : IsWord word) : '\n' ∉ word := by
  intro member
  exact isWord.solid '\n' member (by decide)

theorem getLast?_ne (isWord : IsWord word) : word.getLast? ≠ some '\r' := by
  intro last
  exact isWord.solid '\r' (List.mem_of_getLast? last) (by decide)

theorem words_eq (isWord : IsWord word) : words word = [word] := by
  have solid : ∀ c ∈ word, whiteSpace.contains c = false := by
    intro c member
    simpa using isWord.solid c member
  rw [words, List.splitOnP_eq_singleton solid]
  simp [isWord.nonempty]

end IsWord

@[simp] theorem words_nil : words [] = [] := by
  simp [words, List.splitOnP_nil]

/-- A blank parts the words before it from those behind it. -/
theorem words_append_cons {c : Char} (blank : c ∈ whiteSpace) (first second : List Char) :
    words (first ++ c :: second) = words first ++ words second := by
  rw [words, List.splitOnP_append_cons _ _ (List.contains_iff_mem.2 blank), List.filter_append]
  rfl

theorem words_flatMap_newline {lines : List (List Char)} (areWords : ∀ line ∈ lines, IsWord line) :
    words (lines.flatMap (· ++ ['\n'])) = lines := by
  induction lines with
  | nil => exact words_nil
  | cons line lines ih =>
      rw [List.forall_mem_cons] at areWords
      rw [List.flatMap_cons, List.append_assoc, List.singleton_append,
        words_append_cons (by decide), areWords.1.words_eq, ih areWords.2, List.singleton_append]

end DeviceFlags.Text
