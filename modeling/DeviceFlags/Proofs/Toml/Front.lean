import DeviceFlags.Proofs.Toml.Front.Scalar
import DeviceFlags.Toml.Document

/-!
# What is left of a document

The readers of keys, values and lines take what they read off the front of their
text, and leave its end as it is.  So whatever is read of a document is read from
an end of its text.
-/

namespace DeviceFlags.Toml

open Reader (TakesFront)

/-! ## Keys and values -/

theorem takesFront_keyPart : TakesFront keyPart := by
  intro text value rest read
  rw [keyPart] at read
  split at read
  case h_1 key behind lineRead =>
    cases read
    exact StringLiteral.takesFront_line _ _ _ lineRead
  case h_2 =>
    simp only at read
    split at read
    case isTrue => cases read
    case isFalse =>
      cases read
      exact List.dropWhile_suffix isBareKeyChar

theorem takesFront_keyPath : TakesFront KeyPath.read := by
  intro text value rest read
  rcases Option.map_eq_some_iff.1 read with ⟨key, -, same⟩
  cases same
  exact Reader.suffix_separated
    (Reader.takesFront_between takesFront_keyPart suffix_skipSpace) '.' text

theorem takesFront_assignment {reader : Reader Value} (takes : TakesFront reader) :
    TakesFront (Assignment.read reader) := by
  intro text value rest read
  rcases Option.bind_eq_some_iff.1 read with ⟨⟨key, text₁⟩, keyRead, read⟩
  rcases Option.bind_eq_some_iff.1 read with ⟨text₂, mark, read⟩
  rcases Option.bind_eq_some_iff.1 read with ⟨⟨found, text₃⟩, foundRead, same⟩
  cases same
  calc
    rest <:+ skipSpace text₂ := takes _ _ _ foundRead
    _ <:+ text₂ := suffix_skipSpace text₂
    _ <:+ text₁ := suffix_of_expect mark
    _ <:+ text := takesFront_keyPath _ _ _ keyRead

namespace Value

section Bracketed

variable {reader : Reader Value} (takes : TakesFront reader)
include takes

theorem takesFront_elements : TakesFront (elements reader) := by
  intro text value rest read
  have behind := (suffix_skipLayout _).trans (Reader.suffix_separated
    (Reader.takesFront_between takes suffix_skipLayout) ',' text)
  simp only [elements] at read
  split at read
  case h_1 inner closed =>
    cases read
    rw [closed] at behind
    exact (List.suffix_cons _ _).trans behind
  case h_2 inner comma =>
    rw [comma] at behind
    split at read
    case h_1 closed =>
      cases read
      have beyond := suffix_skipLayout inner
      rw [closed] at beyond
      exact (List.suffix_cons _ _).trans (beyond.trans ((List.suffix_cons _ _).trans behind))
    case h_2 => cases read
  case h_3 => cases read

theorem takesFront_inlineEntries : TakesFront (inlineEntries reader) := by
  intro text value rest read
  rcases Option.bind_eq_some_iff.1 read with ⟨behind, closed, read⟩
  rcases Option.bind_eq_some_iff.1 read with ⟨entries, -, same⟩
  cases same
  exact (suffix_of_expect closed).trans ((suffix_skipSpace _).trans (Reader.suffix_separated
    (Reader.takesFront_between (takesFront_assignment takes) suffix_skipSpace) ',' text))

end Bracketed

theorem takesFront_readWithin (depth : Nat) : TakesFront (readWithin depth) := by
  induction depth with
  | zero => exact takesFront_scalar
  | succ depth ih =>
      intro text value rest read
      simp only [readWithin] at read
      split at read
      case h_1 inner =>
        exact (Reader.takesFront_map (takesFront_elements ih) _ _ _ _ read).trans
          (List.suffix_cons _ inner)
      case h_2 inner =>
        exact (Reader.takesFront_map (takesFront_inlineEntries ih) _ _ _ _ read).trans
          (List.suffix_cons _ inner)
      case h_3 => exact takesFront_scalar _ _ _ read

theorem takesFront_read : TakesFront Value.read :=
  takesFront_readWithin (nestingLimit - 1)

end Value

/-! ## Lines -/

theorem suffix_dropByteOrderMark (text : List Char) : dropByteOrderMark text <:+ text := by
  rw [dropByteOrderMark.eq_def]
  split
  case h_1 c rest =>
    split
    case isTrue => exact List.suffix_cons c rest
    case isFalse => exact List.suffix_refl _
  case h_2 => exact List.suffix_refl []

theorem takesFront_header : TakesFront Header.read := by
  intro text value rest read
  rw [Header.read.eq_def] at read
  split at read
  case h_1 inner =>
    rcases Option.bind_eq_some_iff.1 read with ⟨⟨key, text₁⟩, keyRead, read⟩
    rcases Option.bind_eq_some_iff.1 read with ⟨text₂, first, read⟩
    rcases Option.bind_eq_some_iff.1 read with ⟨text₃, second, same⟩
    cases same
    calc
      rest <:+ text₂ := suffix_of_expect second
      _ <:+ text₁ := suffix_of_expect first
      _ <:+ inner := takesFront_keyPath _ _ _ keyRead
      _ <:+ '[' :: '[' :: inner := ⟨['[', '['], rfl⟩
  case h_2 inner _ =>
    rcases Option.bind_eq_some_iff.1 read with ⟨⟨key, text₁⟩, keyRead, read⟩
    rcases Option.bind_eq_some_iff.1 read with ⟨text₂, closed, same⟩
    cases same
    calc
      rest <:+ text₁ := suffix_of_expect closed
      _ <:+ inner := takesFront_keyPath _ _ _ keyRead
      _ <:+ '[' :: inner := List.suffix_cons '[' inner
  case h_3 => cases read

theorem takesFront_content : TakesFront Line.content := by
  intro text value rest read
  rw [Line.content.eq_def] at read
  split at read
  case h_5 => exact Reader.takesFront_map takesFront_header _ _ _ _ read
  case h_6 =>
    exact Reader.takesFront_map (takesFront_assignment Value.takesFront_read) _ _ _ _ read
  all_goals
    cases read
    exact List.suffix_refl _

theorem takesFront_lineRead : TakesFront Line.read := by
  intro text value rest read
  rcases Option.bind_eq_some_iff.1 read with ⟨⟨line, behind⟩, content, read⟩
  rcases Option.bind_eq_some_iff.1 read with ⟨behind', ended, same⟩
  cases same
  exact (suffix_of_lineEnd? ended).trans
    ((takesFront_content _ _ _ content).trans (suffix_skipSpace text))

end DeviceFlags.Toml
