import DeviceFlags.Proofs.RuleTable.RoundTrip

/-!
# Converted rule files

Editors and version control turn line feeds into carriage returns and line
feeds, and put a byte order mark in front.  A written table survives both: the
writer puts no other control than the tab and the line feed down as itself, so
every carriage return of a converted file belongs to a line end, and the reader
takes it off again.
-/

namespace DeviceFlags

open Toml (LineEnd)

namespace Toml.StringLiteral

/-! ## The characters of a literal -/

/-- Whether a document may hold a character as itself. -/
def IsVerbatim (c : Char) : Prop :=
  isPlain c = true ∨ c = '\n'

theorem IsVerbatim.ne_return {c : Char} (verbatim : IsVerbatim c) : c ≠ '\r' := by
  rintro rfl
  rcases verbatim with plain | feed <;> contradiction

theorem isVerbatim_of_not_needsEscape {c : Char} (unescaped : needsEscape c = false) :
    IsVerbatim c := by
  by_cases feed : c = '\n'
  · exact Or.inr feed
  · exact Or.inl (isPlain_of_not_needsEscape unescaped feed)

theorem isPlain_upperDigit : ∀ value < 16, isPlain (Text.Hex.upperDigit value) = true := by
  decide

theorem isPlain_of_mem_padded {width value : Nat} {c : Char}
    (member : c ∈ Text.Hex.padded Text.Hex.upperDigit width value) : isPlain c = true := by
  rcases Text.Hex.mem_padded member with ⟨small, bound, rfl⟩
  exact isPlain_upperDigit small bound

/-- A backslash and the mark of an escape. -/
theorem isVerbatim_of_mem_escape {mark written : Char} (plain : isPlain mark = true)
    (member : written ∈ ['\\', mark]) : IsVerbatim written := by
  simp only [List.mem_cons, List.not_mem_nil, or_false] at member
  rcases member with rfl | rfl
  · exact Or.inl rfl
  · exact Or.inl plain

theorem isVerbatim_of_mem_escapeChar {c written : Char} (member : written ∈ escapeChar c) :
    IsVerbatim written := by
  unfold escapeChar at member
  split at member
  · exact isVerbatim_of_mem_escape rfl member
  split at member
  · exact isVerbatim_of_mem_escape rfl member
  split at member
  · exact isVerbatim_of_mem_escape rfl member
  split at member
  · exact isVerbatim_of_mem_escape rfl member
  split at member
  · exact isVerbatim_of_mem_escape rfl member
  split at member
  case isTrue =>
    rcases List.mem_append.1 member with mark | digit
    · exact isVerbatim_of_mem_escape rfl mark
    · exact Or.inl (isPlain_of_mem_padded digit)
  case isFalse unescaped =>
    rw [List.mem_singleton] at member
    subst member
    exact isVerbatim_of_not_needsEscape (by simpa using unescaped)

theorem isVerbatim_of_mem_escapeBasic {c written : Char} (member : written ∈ escapeBasic c) :
    IsVerbatim written := by
  unfold escapeBasic at member
  split at member
  · exact isVerbatim_of_mem_escape rfl member
  split at member
  · exact isVerbatim_of_mem_escape rfl member
  · exact isVerbatim_of_mem_escapeChar member

theorem isVerbatim_of_mem_escapeMultiline {quotes : Nat} {text : List Char} {written : Char}
    (member : written ∈ escapeMultiline quotes text) : IsVerbatim written := by
  induction text generalizing quotes with
  | nil => simp [escapeMultiline] at member
  | cons c text ih =>
      rw [escapeMultiline] at member
      split at member
      case isTrue =>
        split at member
        case isTrue =>
          rcases List.mem_append.1 member with escape | later
          · exact isVerbatim_of_mem_escape rfl escape
          · exact ih later
        case isFalse =>
          rcases List.mem_cons.1 member with rfl | later
          · exact Or.inl rfl
          · exact ih later
      case isFalse =>
        split at member
        case isTrue =>
          rcases List.mem_cons.1 member with rfl | later
          · exact Or.inr rfl
          · exact ih later
        case isFalse =>
          rcases List.mem_append.1 member with escape | later
          · exact isVerbatim_of_mem_escapeChar escape
          · exact ih later

theorem isVerbatim_of_mem_opening {text : List Char} {written : Char}
    (member : written ∈ opening text) : IsVerbatim written := by
  unfold opening at member
  split at member
  · exact Or.inr (List.mem_singleton.1 member)
  · simp at member

/-- A string literal holds no control but the tab and the line feed. -/
theorem isVerbatim_of_mem_print {text : List Char} {written : Char}
    (member : written ∈ print text) : IsVerbatim written := by
  have quote : IsVerbatim '"' ∧ IsVerbatim '\'' := ⟨Or.inl rfl, Or.inl rfl⟩
  unfold print at member
  split at member
  case h_1 =>
    simp only [List.cons_append, List.mem_cons, List.mem_append, List.mem_flatMap,
      List.not_mem_nil, or_false] at member
    rcases member with rfl | ⟨c, _, escape⟩ | rfl
    · exact quote.1
    · exact isVerbatim_of_mem_escapeBasic escape
    · exact quote.1
  case h_2 form =>
    simp only [List.cons_append, List.mem_cons, List.mem_append, List.not_mem_nil,
      or_false] at member
    rcases member with rfl | among | rfl
    · exact quote.2
    · exact isVerbatim_of_not_needsEscape ((Form.of_literal form).1 _ among)
    · exact quote.2
  case h_3 =>
    simp only [List.mem_append, List.mem_cons, List.not_mem_nil, or_false, or_self] at member
    rcases member with ((rfl | feed) | escape) | rfl
    · exact quote.1
    · exact isVerbatim_of_mem_opening feed
    · exact isVerbatim_of_mem_escapeMultiline escape
    · exact quote.1
  case h_4 form =>
    simp only [List.mem_append, List.mem_cons, List.not_mem_nil, or_false, or_self] at member
    rcases member with ((rfl | feed) | among) | rfl
    · exact quote.2
    · exact isVerbatim_of_mem_opening feed
    · exact isVerbatim_of_not_needsEscape ((Form.of_multilineLiteral form).1 _ among)
    · exact quote.2

end Toml.StringLiteral

/-! ## The characters of a document -/

open Toml.StringLiteral (IsVerbatim)

theorem isVerbatim_of_all {text : List Char}
    (all : text.all (fun c => Toml.isPlain c || c == '\n') = true) {written : Char}
    (member : written ∈ text) : IsVerbatim written := by
  simpa [IsVerbatim] using List.all_eq_true.1 all written member

theorem Rule.isVerbatim_of_mem_toToml {rule : Rule} {written : Char}
    (member : written ∈ rule.toToml) : IsVerbatim written := by
  unfold toToml at member
  simp only [List.mem_append] at member
  rcases member with (((first | device) | second) | flag) | last
  · exact isVerbatim_of_all (by decide) first
  · exact Toml.StringLiteral.isVerbatim_of_mem_print device
  · exact isVerbatim_of_all (by decide) second
  · exact Toml.StringLiteral.isVerbatim_of_mem_print flag
  · exact Or.inr (List.mem_singleton.1 last)

namespace RuleTable

theorem isVerbatim_of_mem_rulesToml {rules : List Rule} {written : Char}
    (member : written ∈ rulesToml rules) : IsVerbatim written := by
  induction rules using rulesToml.induct with
  | case1 => simp [rulesToml] at member
  | case2 rule => exact rule.isVerbatim_of_mem_toToml member
  | case3 rule next rest ih =>
      rw [rulesToml, List.mem_append, List.mem_cons] at member
      rcases member with first | feed | later
      · exact rule.isVerbatim_of_mem_toToml first
      · exact Or.inr feed
      · exact ih later

theorem isVerbatim_of_mem_toTomlChars {table : RuleTable} {written : Char}
    (member : written ∈ table.toTomlChars) : IsVerbatim written := by
  unfold toTomlChars at member
  split at member
  · exact isVerbatim_of_all (by decide) member
  · exact isVerbatim_of_mem_rulesToml member

/-! ## Reading converted documents -/

/-- A byte order mark in front of a text without one makes no difference. -/
theorem ofToml_mark {text : List Char} (noMark : Toml.dropByteOrderMark text = text) :
    ofToml (String.ofList ('\uFEFF' :: text)) = ofToml (String.ofList text) := by
  have dropped : Toml.dropByteOrderMark ('\uFEFF' :: text) = text := rfl
  simp only [ofToml, Toml.readText, String.toList_ofList, Toml.parse?_eq, noMark, dropped]

/-- The text of a table is still read as the table when all its line feeds have
become line ends of the other kind, with a byte order mark in front or without.
No carriage return is in the text before, so the ones there are afterwards all
belong to line ends. -/
theorem ofToml_converted (table : RuleTable) (ending : LineEnd) :
    '\r' ∉ table.toToml.toList ∧
      ofToml (String.ofList (ending.write table.toToml.toList)) = .ok table ∧
      ofToml (String.ofList ('\uFEFF' :: ending.write table.toToml.toList)) = .ok table := by
  rw [toToml, String.toList_ofList]
  refine ⟨?noReturn, ofToml_write ending table, ?marked⟩
  case noReturn =>
    intro member
    exact (isVerbatim_of_mem_toTomlChars member).ne_return rfl
  case marked =>
    have noMark := dropByteOrderMark_write_append ending table []
    rw [List.append_nil] at noMark
    rw [ofToml_mark noMark]
    exact ofToml_write ending table

end RuleTable

end DeviceFlags
