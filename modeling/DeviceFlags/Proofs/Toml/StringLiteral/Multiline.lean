import DeviceFlags.Proofs.Toml.LineEnd
import DeviceFlags.Proofs.Toml.StringLiteral.Escape

/-!
# Texts between three quotes

Quotes may stand inside a text between three quotes, and up to two of them next
to the closing ones.  The readers are followed character by character: at a
quote the rest of the text goes on with at most one more, so the closing quotes
are never taken for part of the text, nor part of the text for them.
-/

namespace DeviceFlags.Toml.StringLiteral

/-! ## Closing quotes -/

theorem closing?_cons_of_ne {mark c : Char} (other : c ≠ mark) (text : List Char) :
    closing? mark (c :: text) = none := by
  unfold closing?
  split <;> simp_all

theorem closing?_second_ne {mark c : Char} (other : c ≠ mark) (text : List Char) :
    closing? mark (mark :: c :: text) = none := by
  unfold closing?
  split <;> simp_all

theorem closing?_third_ne {mark c : Char} (other : c ≠ mark) (text : List Char) :
    closing? mark (mark :: mark :: c :: text) = none := by
  unfold closing?
  split <;> simp_all

section Close

variable {mark : Char} {rest : List Char} (behind : rest.head? ≠ some mark)
include behind

theorem closing?_three : closing? mark (mark :: mark :: mark :: rest) = some ([], rest) := by
  match rest, behind with
  | [], _ => simp [closing?]
  | [fourth], behind => simp_all [closing?]
  | fourth :: fifth :: rest, behind => simp_all [closing?]

theorem closing?_four :
    closing? mark (mark :: mark :: mark :: mark :: rest) = some ([mark], rest) := by
  match rest, behind with
  | [], _ => simp [closing?]
  | fifth :: rest, behind => simp_all [closing?]

/-- A quote at the front of a text that goes on with at most one more quote
belongs to the string: the closing quotes, where they are reached, take it in. -/
theorem closing?_mark {body : List Char} (single : ¬[mark, mark] <+: body) :
    closing? mark (mark :: (body ++ mark :: mark :: mark :: rest)) = none ∨
      ∃ closed, closing? mark (body ++ mark :: mark :: mark :: rest) = some closed ∧
        closing? mark (mark :: (body ++ mark :: mark :: mark :: rest)) =
          some (mark :: closed.1, closed.2) := by
  match body, single with
  | [], _ => exact Or.inr ⟨_, closing?_three behind, closing?_four behind⟩
  | [first], _ =>
      by_cases equal : first = mark
      · subst equal
        exact Or.inr ⟨_, closing?_four behind, by simp [closing?]⟩
      · exact Or.inl (closing?_second_ne equal _)
  | first :: second :: body, single =>
      by_cases equal : first = mark
      · subst equal
        have other : second ≠ first := by
          rintro rfl
          exact single ⟨body, rfl⟩
        exact Or.inl (closing?_third_ne other _)
      · exact Or.inl (closing?_second_ne equal _)

end Close

/-! ## Several lines -/

section MultilineBasic

theorem multilineBasic_of_closing? {text : List Char} {closed : List Char × List Char}
    (closes : closing? '"' text = some closed) : multilineBasic text = some closed := by
  rw [multilineBasic.eq_def, closes]

theorem multilineBasic_verbatim {c : Char} {rest : List Char}
    (opens : closing? '"' (c :: rest) = none) (verbatim : (isPlain c || c == '\n') = true)
    (backslash : c ≠ '\\') : multilineBasic (c :: rest) = push c (multilineBasic rest) := by
  have notReturn : c ≠ '\r' := by
    rintro rfl
    contradiction
  rw [multilineBasic, opens]
  · simp only
    rw [if_neg backslash, if_pos verbatim]
  · exact fun _ equal _ => notReturn equal

theorem multilineBasic_stands {c : Char} {written : List Char} (stands : Stands c written)
    (rest : List Char) : multilineBasic (written ++ rest) = push c (multilineBasic rest) := by
  cases stands with
  | plain isPlain quote backslash =>
      exact multilineBasic_verbatim (closing?_cons_of_ne quote rest) (by simp [isPlain]) backslash
  | escaped behind read stays _ =>
      rw [List.cons_append, multilineBasic, closing?_cons_of_ne (by decide)]
      · simp only [if_true]
        split
        case h_1 folds => simp [stays] at folds
        case h_2 => split <;> simp_all
      · exact fun _ equal _ => by simp at equal

theorem multilineBasic_lineEnd (ending : LineEnd) (rest : List Char) :
    multilineBasic (ending.chars ++ rest) = push '\n' (multilineBasic rest) := by
  cases ending with
  | feed => exact multilineBasic_verbatim (closing?_cons_of_ne (by decide) _) rfl (by decide)
  | returnFeed =>
      rw [LineEnd.chars, List.cons_append, List.singleton_append, multilineBasic,
        closing?_cons_of_ne (by decide)]

theorem multilineBasic_quote {body rest : List Char} (behind : rest.head? ≠ some '"')
    (single : ¬['"', '"'] <+: body) :
    multilineBasic ('"' :: (body ++ '"' :: '"' :: '"' :: rest)) =
      push '"' (multilineBasic (body ++ '"' :: '"' :: '"' :: rest)) := by
  rcases closing?_mark behind single with opens | ⟨closed, closes, closesBefore⟩
  · exact multilineBasic_verbatim opens rfl (by decide)
  · rw [multilineBasic_of_closing? closes, multilineBasic_of_closing? closesBefore]
    rfl

/-- Together with the quotes counted before it, a written text does not begin
with three. -/
theorem not_prefix_escapeMultiline {quotes : Nat} (few : quotes ≤ 2) (text : List Char) :
    ¬List.replicate (3 - quotes) '"' <+: escapeMultiline quotes text := by
  intro starts
  have more : 3 - quotes = 2 - quotes + 1 := by omega
  rw [more, List.replicate_succ] at starts
  induction text generalizing quotes with
  | nil => simp [escapeMultiline] at starts
  | cons c text ih =>
      rw [escapeMultiline] at starts
      split at starts
      case isTrue =>
        split at starts
        case isTrue => simp at starts
        case isFalse notTwo =>
          have fewer : quotes + 1 ≤ 2 := Nat.lt_of_le_of_ne few notTwo
          have count : 2 - quotes = 2 - (quotes + 1) + 1 := by omega
          rw [List.cons_prefix_cons, count, List.replicate_succ] at starts
          exact ih fewer starts.2 (by omega)
      case isFalse quote =>
        split at starts
        case isTrue => simp at starts
        case isFalse feed =>
          rcases starts with ⟨rest, equal⟩
          refine (stands_escapeChar quote feed).head?_append_ne (escapeMultiline 0 text) ?_
          rw [← equal]
          rfl

theorem multilineBasic_escapeMultiline (ending : LineEnd) {quotes : Nat} (few : quotes ≤ 2)
    (text : List Char) {rest : List Char} (behind : rest.head? ≠ some '"') :
    multilineBasic (ending.write (escapeMultiline quotes text) ++ '"' :: '"' :: '"' :: rest) =
      some (text, rest) := by
  induction text generalizing quotes with
  | nil => exact multilineBasic_of_closing? (closing?_three behind)
  | cons c text ih =>
      rw [escapeMultiline]
      split
      case isTrue quote =>
        subst quote
        split
        case isTrue =>
          have stands : Stands '"' ['\\', '"'] := .letter (fun _ => rfl) (by decide)
          rw [LineEnd.write_append, LineEnd.write_eq_self _ (by decide), List.append_assoc,
            multilineBasic_stands stands, ih (Nat.zero_le 2)]
          rfl
        case isFalse notTwo =>
          have fewer : quotes < 2 := Nat.lt_of_le_of_ne few notTwo
          have single : ¬['"', '"'] <+: ending.write (escapeMultiline (quotes + 1) text) := by
            intro starts
            have shorter : List.replicate (3 - (quotes + 1)) '"' <+: List.replicate 2 '"' :=
              List.prefix_replicate_iff.2 ⟨by simp, by simp⟩
            exact not_prefix_escapeMultiline fewer text
              (shorter.trans (ending.prefix_of_prefix_write (by decide) starts))
          rw [LineEnd.write_cons_of_ne _ (by decide), List.cons_append,
            multilineBasic_quote behind single, ih fewer]
          rfl
      case isFalse quote =>
        split
        case isTrue feed =>
          subst feed
          rw [LineEnd.write_cons_newline, List.append_assoc, multilineBasic_lineEnd,
            ih (Nat.zero_le 2)]
          rfl
        case isFalse feed =>
          have stands := stands_escapeChar quote feed
          rw [LineEnd.write_append, LineEnd.write_eq_self _ stands.notMem_newline,
            List.append_assoc, multilineBasic_stands stands, ih (Nat.zero_le 2)]
          rfl

end MultilineBasic

section MultilineLiteral

theorem multilineLiteral_of_closing? {text : List Char} {closed : List Char × List Char}
    (closes : closing? '\'' text = some closed) : multilineLiteral text = some closed := by
  rw [multilineLiteral.eq_def, closes]

theorem multilineLiteral_verbatim {c : Char} {rest : List Char}
    (opens : closing? '\'' (c :: rest) = none) (verbatim : (isPlain c || c == '\n') = true) :
    multilineLiteral (c :: rest) = push c (multilineLiteral rest) := by
  have notReturn : c ≠ '\r' := by
    rintro rfl
    contradiction
  rw [multilineLiteral, opens]
  · simp only
    rw [if_pos verbatim]
  · exact fun _ equal _ => notReturn equal

theorem multilineLiteral_lineEnd (ending : LineEnd) (rest : List Char) :
    multilineLiteral (ending.chars ++ rest) = push '\n' (multilineLiteral rest) := by
  cases ending with
  | feed => exact multilineLiteral_verbatim (closing?_cons_of_ne (by decide) _) rfl
  | returnFeed =>
      rw [LineEnd.chars, List.cons_append, List.singleton_append, multilineLiteral,
        closing?_cons_of_ne (by decide)]

theorem multilineLiteral_quote {body rest : List Char} (behind : rest.head? ≠ some '\'')
    (single : ¬['\'', '\''] <+: body) :
    multilineLiteral ('\'' :: (body ++ '\'' :: '\'' :: '\'' :: rest)) =
      push '\'' (multilineLiteral (body ++ '\'' :: '\'' :: '\'' :: rest)) := by
  rcases closing?_mark behind single with opens | ⟨closed, closes, closesBefore⟩
  · exact multilineLiteral_verbatim opens rfl
  · rw [multilineLiteral_of_closing? closes, multilineLiteral_of_closing? closesBefore]
    rfl

theorem hasTriple_of_pair {mark : Char} {text : List Char} (pair : [mark, mark] <+: text) :
    hasTriple mark (mark :: text) = true := by
  rcases pair with ⟨rest, rfl⟩
  simp [hasTriple]

theorem hasTriple_tail {mark c : Char} {text : List Char}
    (none : hasTriple mark (c :: text) = false) : hasTriple mark text = false := by
  match text, none with
  | [], _ => rfl
  | [_], _ => rfl
  | _ :: _ :: _, none =>
      rw [hasTriple, Bool.or_eq_false_iff] at none
      exact none.2

theorem multilineLiteral_write (ending : LineEnd) {text : List Char}
    (verbatim : ∀ c ∈ text, needsEscape c = false) (triple : hasTriple '\'' text = false)
    {rest : List Char} (behind : rest.head? ≠ some '\'') :
    multilineLiteral (ending.write text ++ '\'' :: '\'' :: '\'' :: rest) = some (text, rest) := by
  induction text with
  | nil => exact multilineLiteral_of_closing? (closing?_three behind)
  | cons c text ih =>
      have unescaped := verbatim c List.mem_cons_self
      have read := ih (fun c member => verbatim c (List.mem_cons_of_mem _ member))
        (hasTriple_tail triple)
      by_cases feed : c = '\n'
      · subst feed
        rw [LineEnd.write_cons_newline, List.append_assoc, multilineLiteral_lineEnd, read]
        rfl
      rw [LineEnd.write_cons_of_ne _ feed, List.cons_append]
      by_cases quote : c = '\''
      · subst quote
        have single : ¬['\'', '\''] <+: ending.write text := by
          intro starts
          have pair := ending.prefix_of_prefix_write (by decide) starts
          rw [hasTriple_of_pair pair] at triple
          contradiction
        rw [multilineLiteral_quote behind single, read]
        rfl
      · have plain := isPlain_of_not_needsEscape unescaped feed
        rw [multilineLiteral_verbatim (closing?_cons_of_ne quote _) (by simp [plain]), read]
        rfl

end MultilineLiteral

end DeviceFlags.Toml.StringLiteral
