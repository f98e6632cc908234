import DeviceFlags.Proofs.Toml.Reader
import DeviceFlags.Toml.Expression
import Mathlib.Data.List.Infix

/-!
# What is left behind a scalar

The readers of strings, numbers, dates and times take what they read off the front
of their text, and leave its end as it is.
-/

namespace DeviceFlags.Toml

open Reader (TakesFront)

/-! ## Marks, spaces and comments -/

theorem suffix_of_expect {c : Char} {text rest : List Char} (read : expect c text = some rest) :
    rest <:+ text := by
  cases text with
  | nil => cases read
  | cons head behind =>
      rw [expect] at read
      split at read
      case isTrue =>
        cases read
        exact List.suffix_cons head rest
      case isFalse => cases read

theorem suffix_skipSpace (text : List Char) : skipSpace text <:+ text :=
  List.dropWhile_suffix isSpace

theorem suffix_of_newline? {text rest : List Char} (read : newline? text = some rest) :
    rest <:+ text := by
  rw [newline?.eq_def] at read
  split at read
  case h_1 =>
    cases read
    exact List.suffix_cons '\n' rest
  case h_2 =>
    cases read
    exact ⟨['\r', '\n'], rfl⟩
  case h_3 => cases read

theorem suffix_skipComment (text : List Char) : skipComment text <:+ text := by
  rw [skipComment.eq_def]
  split
  case h_1 rest => exact (List.dropWhile_suffix isPlain).trans (List.suffix_cons '#' rest)
  case h_2 => exact List.suffix_refl text

theorem suffix_of_lineEnd? {text rest : List Char} (read : lineEnd? text = some rest) :
    rest <:+ text := by
  have behind : skipComment (skipSpace text) <:+ text :=
    (suffix_skipComment _).trans (suffix_skipSpace text)
  rw [lineEnd?.eq_def] at read
  split at read
  case h_1 =>
    cases read
    exact List.nil_suffix
  case h_2 => exact (suffix_of_newline? read).trans behind

theorem suffix_skipLayoutFrom (inComment : Bool) (text : List Char) :
    skipLayoutFrom inComment text <:+ text := by
  fun_induction skipLayoutFrom inComment text with
  | case1 => exact List.suffix_refl []
  | case3 _ rest ih => exact ih.trans ⟨['\r', '\n'], rfl⟩
  | case5 => exact List.suffix_refl _
  | case8 => exact List.suffix_refl _
  | _ => exact List.IsSuffix.trans (by assumption) (List.suffix_cons _ _)

theorem suffix_skipLayout (text : List Char) : skipLayout text <:+ text :=
  suffix_skipLayoutFrom false text

/-! ## Strings -/

namespace StringLiteral

theorem takesFront_codePoint (width : Nat) : TakesFront (codePoint width) := by
  intro text value rest read
  rw [codePoint] at read
  split at read
  case isTrue =>
    rcases Option.map_eq_some_iff.1 read with ⟨found, -, same⟩
    cases same
    exact List.drop_suffix width text
  case isFalse => cases read

theorem takesFront_escape : TakesFront escape := by
  intro text value rest read
  rw [escape.eq_def] at read
  split at read
  case h_8 => exact (takesFront_codePoint 4 _ _ _ read).trans (List.suffix_cons _ _)
  case h_9 => exact (takesFront_codePoint 8 _ _ _ read).trans (List.suffix_cons _ _)
  case h_10 => cases read
  all_goals
    cases read
    exact List.suffix_cons _ _

/-- A character in front of what is read makes no difference to what is left. -/
theorem suffix_of_push {c : Char} {read : Option (List Char × List Char)}
    {front text rest : List Char}
    (leaves : ∀ behind rest, read = some (behind, rest) → rest <:+ front)
    (pushed : push c read = some (text, rest)) : rest <:+ front := by
  rcases Option.map_eq_some_iff.1 pushed with ⟨⟨behind, same⟩, found, equal⟩
  cases equal
  exact leaves behind rest found

theorem takesFront_basic : TakesFront basic := by
  intro text
  fun_induction basic text with
  | case1 => exact nofun
  | case2 =>
      intro value rest read
      cases read
      exact List.suffix_cons _ _
  | case3 => exact nofun
  | case4 _ _ _ escapeRead _ ih =>
      intro value rest read
      exact (suffix_of_push ih read).trans
        ((takesFront_escape _ _ _ escapeRead).trans (List.suffix_cons _ _))
  | case5 _ _ _ _ _ ih =>
      intro value rest read
      exact (suffix_of_push ih read).trans (List.suffix_cons _ _)
  | case6 => exact nofun

theorem takesFront_literal : TakesFront literal := by
  intro text
  fun_induction literal text with
  | case1 => exact nofun
  | case2 =>
      intro value rest read
      cases read
      exact List.suffix_cons _ _
  | case3 _ _ _ _ ih =>
      intro value rest read
      exact (suffix_of_push ih read).trans (List.suffix_cons _ _)
  | case4 => exact nofun

theorem takesFront_closing? (mark : Char) : TakesFront (closing? mark) := by
  intro text value rest read
  rw [closing?.eq_def] at read
  split at read
  case h_1 first second third beyond =>
    have behind : beyond <:+ first :: second :: third :: beyond :=
      ⟨[first, second, third], rfl⟩
    split at read
    case isTrue =>
      suffices rest <:+ beyond from this.trans behind
      split at read
      case h_1 fourth fifth last =>
        split at read
        case isTrue =>
          split at read
          case isTrue =>
            cases read
            exact ⟨[fourth, fifth], rfl⟩
          case isFalse =>
            cases read
            exact List.suffix_cons fourth _
        case isFalse =>
          cases read
          exact List.suffix_refl _
      case h_2 fourth =>
        split at read
        case isTrue =>
          cases read
          exact List.nil_suffix
        case isFalse =>
          cases read
          exact List.suffix_refl _
      case h_3 =>
        cases read
        exact List.suffix_refl []
    case isFalse => cases read
  case h_2 => cases read

theorem suffix_dropFirstNewline (text : List Char) : dropFirstNewline text <:+ text := by
  rw [dropFirstNewline]
  cases found : newline? text with
  | none => exact List.suffix_refl text
  | some rest => exact suffix_of_newline? found

theorem suffix_skipBlankLines (text : List Char) : skipBlankLines text <:+ text := by
  fun_induction skipBlankLines text with
  | case1 => exact List.suffix_refl []
  | case2 rest ih => exact ih.trans ⟨['\r', '\n'], rfl⟩
  | case3 _ _ _ _ ih => exact ih.trans (List.suffix_cons _ _)
  | case4 => exact List.suffix_refl _

theorem suffix_of_continued? {text rest : List Char} (read : continued? text = some rest) :
    rest <:+ text := by
  rcases Option.map_eq_some_iff.1 read with ⟨behind, newline, same⟩
  rw [← same]
  exact (suffix_skipBlankLines behind).trans
    ((suffix_of_newline? newline).trans (suffix_skipSpace text))

theorem takesFront_multilineBasic : TakesFront multilineBasic := by
  intro text
  fun_induction multilineBasic text with
  | case1 text closed closes =>
      intro value rest read
      rw [Option.some.inj read] at closes
      exact takesFront_closing? _ _ _ _ closes
  | case2 => exact nofun
  | case3 _ _ ih =>
      intro value rest read
      exact (suffix_of_push ih read).trans ⟨['\r', '\n'], rfl⟩
  | case4 _ _ continues _ _ ih =>
      intro value rest read
      exact (ih _ _ read).trans ((suffix_of_continued? continues).trans (List.suffix_cons _ _))
  | case5 => exact nofun
  | case6 _ _ _ _ escapeRead _ _ ih =>
      intro value rest read
      exact (suffix_of_push ih read).trans
        ((takesFront_escape _ _ _ escapeRead).trans (List.suffix_cons _ _))
  | case7 _ _ _ _ _ _ ih =>
      intro value rest read
      exact (suffix_of_push ih read).trans (List.suffix_cons _ _)
  | case8 => exact nofun

theorem takesFront_multilineLiteral : TakesFront multilineLiteral := by
  intro text
  fun_induction multilineLiteral text with
  | case1 text closed closes =>
      intro value rest read
      rw [Option.some.inj read] at closes
      exact takesFront_closing? _ _ _ _ closes
  | case2 => exact nofun
  | case3 _ _ ih =>
      intro value rest read
      exact (suffix_of_push ih read).trans ⟨['\r', '\n'], rfl⟩
  | case4 _ _ _ _ _ ih =>
      intro value rest read
      exact (suffix_of_push ih read).trans (List.suffix_cons _ _)
  | case5 => exact nofun

theorem takesFront_line : TakesFront line := by
  intro text value rest read
  rw [line.eq_def] at read
  split at read
  case h_1 => exact (takesFront_basic _ _ _ read).trans (List.suffix_cons _ _)
  case h_2 => exact (takesFront_literal _ _ _ read).trans (List.suffix_cons _ _)
  case h_3 => cases read

theorem takesFront_read : TakesFront read := by
  intro text value rest found
  rw [read.eq_def] at found
  split at found
  case h_1 behind =>
    have within := (takesFront_multilineBasic _ _ _ found).trans (suffix_dropFirstNewline behind)
    exact within.trans ⟨['"', '"', '"'], rfl⟩
  case h_2 behind =>
    have within := (takesFront_multilineLiteral _ _ _ found).trans (suffix_dropFirstNewline behind)
    exact within.trans ⟨['\'', '\'', '\''], rfl⟩
  case h_3 => exact takesFront_line _ _ _ found

end StringLiteral

/-! ## Numbers -/

namespace Number

theorem suffix_moreDigits (accept : Char → Bool) (text : List Char) :
    (moreDigits accept text).2 <:+ text := by
  fun_induction moreDigits accept text with
  | case1 => exact List.suffix_refl []
  | case2 c rest _ _ ih => exact ih.trans ⟨['_', c], rfl⟩
  | case3 => exact List.suffix_refl _
  | case4 c rest _ _ _ ih => exact ih.trans (List.suffix_cons c rest)
  | case5 => exact List.suffix_refl _

theorem takesFront_digits (accept : Char → Bool) : TakesFront (digits accept) := by
  intro text value rest read
  cases text with
  | nil => cases read
  | cons c behind =>
      rw [digits] at read
      split at read
      case isTrue =>
        cases read
        exact (suffix_moreDigits accept behind).trans (List.suffix_cons c behind)
      case isFalse => cases read

theorem takesFront_whole : TakesFront whole := by
  intro text value rest read
  rw [whole.eq_def] at read
  split at read
  case h_1 =>
    cases read
    exact List.suffix_cons _ _
  case h_2 => exact takesFront_digits _ _ _ _ read

theorem suffix_sign (text : List Char) : (sign text).2 <:+ text := by
  rw [sign.eq_def]
  split
  case h_1 => exact List.suffix_cons _ _
  case h_2 => exact List.suffix_cons _ _
  case h_3 => exact List.suffix_refl text

theorem takesFront_fraction : TakesFront fraction :=
  Reader.takesFront_after (takesFront_digits Char.isDigit) '.'

theorem takesFront_exponent : TakesFront exponent := by
  intro text value rest read
  cases text with
  | nil => cases read
  | cons c behind =>
      rw [exponent] at read
      split at read
      case isTrue =>
        rcases Option.map_eq_some_iff.1 read with ⟨⟨found, behind'⟩, digitsRead, same⟩
        cases same
        exact (takesFront_digits _ _ _ _ digitsRead).trans
          ((suffix_sign behind).trans (List.suffix_cons c behind))
      case isFalse => cases read

theorem takesFront_inBase (base : Nat) : TakesFront (inBase base) := by
  intro text value rest read
  rcases Option.bind_eq_some_iff.1 read with ⟨⟨found, behind⟩, digitsRead, read⟩
  rcases Option.bind_eq_some_iff.1 read with ⟨number, -, same⟩
  cases same
  exact takesFront_digits _ _ _ _ digitsRead

theorem takesFront_decimal (negative : Bool) : TakesFront (decimal negative) := by
  intro text value rest read
  rcases Option.bind_eq_some_iff.1 read with ⟨⟨found, behind⟩, wholeRead, read⟩
  have behindWhole : ((fraction behind).getD ([], behind)).2 <:+ text := by
    refine List.IsSuffix.trans ?_ (takesFront_whole _ _ _ wholeRead)
    cases places : fraction behind with
    | none => exact List.suffix_refl behind
    | some both => exact takesFront_fraction _ _ _ places
  simp only at read
  split at read
  case h_1 power behind' powerRead =>
    rcases Option.bind_eq_some_iff.1 read with ⟨number, -, same⟩
    cases same
    exact (takesFront_exponent _ _ _ powerRead).trans behindWhole
  case h_2 =>
    -- With or without places behind the point, nothing more is taken.
    split at read
    all_goals
      rcases Option.bind_eq_some_iff.1 read with ⟨number, -, same⟩
      cases same
      exact behindWhole

theorem takesFront_unsigned (negative : Bool) : TakesFront (unsigned negative) := by
  intro text value rest read
  rw [unsigned.eq_def] at read
  split at read
  case h_1 =>
    cases read
    exact ⟨['i', 'n', 'f'], rfl⟩
  case h_2 =>
    cases read
    exact ⟨['n', 'a', 'n'], rfl⟩
  case h_3 => exact takesFront_decimal negative _ _ _ read

theorem takesFront_read : TakesFront Number.read := by
  intro text value rest found
  rw [Number.read.eq_def] at found
  split at found
  case h_1 => exact (takesFront_inBase 16 _ _ _ found).trans ⟨['0', 'x'], rfl⟩
  case h_2 => exact (takesFront_inBase 8 _ _ _ found).trans ⟨['0', 'o'], rfl⟩
  case h_3 => exact (takesFront_inBase 2 _ _ _ found).trans ⟨['0', 'b'], rfl⟩
  case h_4 => exact (takesFront_unsigned _ _ _ _ found).trans (suffix_sign text)

end Number

/-! ## Dates and times -/

theorem takesFront_fixedField (width least most : Nat) :
    TakesFront (fixedField width least most) := by
  intro text value rest read
  simp only [fixedField] at read
  split at read
  case isTrue =>
    split at read
    case isTrue =>
      cases read
      exact List.drop_suffix width text
    case isFalse => cases read
  case isFalse => cases read

theorem takesFront_date : TakesFront Date.read := by
  intro text value rest read
  rcases Option.bind_eq_some_iff.1 read with ⟨⟨year, text₁⟩, yearRead, read⟩
  rcases Option.bind_eq_some_iff.1 read with ⟨text₂, first, read⟩
  rcases Option.bind_eq_some_iff.1 read with ⟨⟨month, text₃⟩, monthRead, read⟩
  rcases Option.bind_eq_some_iff.1 read with ⟨text₄, second, read⟩
  rcases Option.bind_eq_some_iff.1 read with ⟨⟨day, text₅⟩, dayRead, same⟩
  cases same
  calc
    rest <:+ text₄ := takesFront_fixedField _ _ _ _ _ _ dayRead
    _ <:+ text₃ := suffix_of_expect second
    _ <:+ text₂ := takesFront_fixedField _ _ _ _ _ _ monthRead
    _ <:+ text₁ := suffix_of_expect first
    _ <:+ text := takesFront_fixedField _ _ _ _ _ _ yearRead

theorem suffix_fractionDigits (text : List Char) : (Time.fractionDigits text).2 <:+ text := by
  rw [Time.fractionDigits.eq_def]
  split
  case h_1 rest =>
    simp only
    split
    case isTrue => exact List.suffix_refl _
    case isFalse => exact (List.dropWhile_suffix Char.isDigit).trans (List.suffix_cons '.' rest)
  case h_2 => exact List.suffix_refl text

theorem takesFront_time : TakesFront Time.read := by
  intro text value rest read
  rcases Option.bind_eq_some_iff.1 read with ⟨⟨hour, text₁⟩, hourRead, read⟩
  rcases Option.bind_eq_some_iff.1 read with ⟨text₂, first, read⟩
  rcases Option.bind_eq_some_iff.1 read with ⟨⟨minute, text₃⟩, minuteRead, read⟩
  rcases Option.bind_eq_some_iff.1 read with ⟨text₄, second, read⟩
  rcases Option.bind_eq_some_iff.1 read with ⟨⟨seconds, text₅⟩, secondsRead, same⟩
  cases same
  calc
    (Time.fractionDigits text₅).2 <:+ text₅ := suffix_fractionDigits text₅
    _ <:+ text₄ := takesFront_fixedField _ _ _ _ _ _ secondsRead
    _ <:+ text₃ := suffix_of_expect second
    _ <:+ text₂ := takesFront_fixedField _ _ _ _ _ _ minuteRead
    _ <:+ text₁ := suffix_of_expect first
    _ <:+ text := takesFront_fixedField _ _ _ _ _ _ hourRead

namespace Moment

theorem takesFront_distance : TakesFront distance := by
  intro text value rest read
  rcases Option.bind_eq_some_iff.1 read with ⟨⟨hours, text₁⟩, hoursRead, read⟩
  rcases Option.bind_eq_some_iff.1 read with ⟨text₂, mark, read⟩
  rcases Option.bind_eq_some_iff.1 read with ⟨⟨minutes, text₃⟩, minutesRead, same⟩
  cases same
  calc
    rest <:+ text₂ := takesFront_fixedField _ _ _ _ _ _ minutesRead
    _ <:+ text₁ := suffix_of_expect mark
    _ <:+ text := takesFront_fixedField _ _ _ _ _ _ hoursRead

theorem takesFront_utcOffset : TakesFront utcOffset := by
  intro text value rest read
  rw [utcOffset.eq_def] at read
  split at read
  case h_1 =>
    cases read
    exact List.suffix_cons _ _
  case h_2 =>
    cases read
    exact List.suffix_cons _ _
  case h_3 => exact (takesFront_distance _ _ _ read).trans (List.suffix_cons _ _)
  case h_4 =>
    rcases Option.map_eq_some_iff.1 read with ⟨⟨minutes, behind⟩, minutesRead, same⟩
    cases same
    exact (takesFront_distance _ _ _ minutesRead).trans (List.suffix_cons _ _)
  case h_5 => cases read

theorem takesFront_timeBehindDate : TakesFront timeBehindDate := by
  intro text value rest read
  rw [timeBehindDate.eq_def] at read
  split at read
  case h_4 => cases read
  all_goals exact (takesFront_time _ _ _ read).trans (List.suffix_cons _ _)

theorem takesFront_read : TakesFront Moment.read := by
  intro text value rest found
  rw [Moment.read] at found
  split at found
  case h_1 =>
    rcases Option.map_eq_some_iff.1 found with ⟨⟨time, behind⟩, timeRead, same⟩
    cases same
    exact takesFront_time _ _ _ timeRead
  case h_2 date behindDate dateRead =>
    have behind := takesFront_date _ _ _ dateRead
    split at found
    case h_1 =>
      cases found
      exact behind
    case h_2 time behindTime timeRead =>
      have behind := (takesFront_timeBehindDate _ _ _ timeRead).trans behind
      split at found
      case h_1 =>
        cases found
        exact behind
      case h_2 minutes behindOffset offsetRead =>
        cases found
        exact (takesFront_utcOffset _ _ _ offsetRead).trans behind

end Moment

theorem Value.takesFront_scalar : TakesFront Value.scalar := by
  intro text value rest read
  rw [Value.scalar.eq_def] at read
  split at read
  case h_1 characters behind stringRead =>
    cases read
    exact StringLiteral.takesFront_read _ _ _ stringRead
  case h_2 =>
    split at read
    case h_1 =>
      cases read
      exact ⟨['t', 'r', 'u', 'e'], rfl⟩
    case h_2 =>
      cases read
      exact ⟨['f', 'a', 'l', 's', 'e'], rfl⟩
    case h_3 =>
      split at read
      case h_1 found behind momentRead =>
        cases read
        exact Moment.takesFront_read _ _ _ momentRead
      case h_2 => exact Number.takesFront_read _ _ _ read

end DeviceFlags.Toml
