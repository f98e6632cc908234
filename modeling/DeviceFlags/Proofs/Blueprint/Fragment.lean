import DeviceFlags.Proofs.Blueprint.Reader
import DeviceFlags.Proofs.Toml.Reader
import Mathlib.Data.List.Basic

/-!
# Reading a fragment

The property with the flags is read by itself: the opening bracket with either
the closing one right behind it, or a line feed and a line for each flag.  A
flag ends at the first quote that nothing protects, so nothing in it is taken
for a part of the fragment.  The reader accepts fragments and nothing else.
-/

namespace DeviceFlags.Blueprint

open Toml (Reader)

variable {α : Type}

/-- Reads between a word in front and a word behind. -/
def enclosed (front back : String) (reader : Reader α) : Reader α := fun text => do
  let inside ← text.dropPrefix? front.toList
  let (value, behind) ← reader inside
  let rest ← behind.dropPrefix? back.toList
  return (value, rest)

/-- A flag on its line. -/
def flagEntry : Reader String :=
  enclosed "    \"" ",\n" (literal.map String.ofList)

/-- A line feed and one flag or more, or nothing. -/
def entries : Reader (List String)
  | '\n' :: text =>
      match Reader.many flagEntry text with
      | ([], _) => none
      | (flag :: flags, rest) => some (flag :: flags, rest)
  | text => some ([], text)

/-- The property with the flags. -/
def property : Reader (List String) :=
  enclosed "cflags: [" "]," entries

theorem dropPrefix?_eq_some_iff {text word rest : List Char} :
    text.dropPrefix? word = some rest ↔ text = word ++ rest := by
  simp [List.dropPrefix?_eq_some_iff]

theorem enclosed_eq_some_iff {front back : String} {reader : Reader α} {text rest : List Char}
    {value : α} :
    enclosed front back reader text = some (value, rest) ↔
      ∃ inside, text = front.toList ++ inside ∧
        reader inside = some (value, back.toList ++ rest) := by
  simp only [enclosed, Option.bind_eq_bind, Option.bind_eq_some_iff, Option.pure_def,
    dropPrefix?_eq_some_iff, Option.some.injEq, Prod.mk.injEq, Prod.exists]
  constructor
  · intro read
    rcases read with ⟨inside, opened, value, behind, read, rest, closed, rfl, rfl⟩
    exact ⟨inside, opened, closed ▸ read⟩
  · intro read
    rcases read with ⟨inside, opened, read⟩
    exact ⟨inside, opened, value, _, read, rest, rfl, rfl, rfl⟩

theorem inverts_string : Reader.Inverts (literal.map String.ofList)
    fun value => escape value.toList ++ ['"'] := by
  intro text value rest
  rw [List.append_assoc, List.singleton_append, ← literal_eq_some_iff]
  simp only [Reader.map, Option.map_eq_some_iff, Prod.mk.injEq, Prod.exists]
  constructor
  · intro read
    rcases read with ⟨characters, behind, read, rfl, rfl⟩
    rw [String.toList_ofList]
    exact read
  · intro read
    exact ⟨value.toList, rest, read, String.ofList_toList, rfl⟩

theorem inverts_flagEntry : Reader.Inverts flagEntry flagLine := by
  intro text flag rest
  have closed : "\",\n".toList = '"' :: ",\n".toList := rfl
  unfold flagEntry flagLine
  simp only [enclosed_eq_some_iff, inverts_string _ _ _, closed, List.append_assoc,
    List.cons_append, List.nil_append, exists_eq_right]

theorem flagLine_ne_nil (flag : String) : flagLine flag ≠ [] := by
  unfold flagLine
  simp

theorem many_flagEntry_eq_iff {text rest : List Char} {flags : List String} :
    Reader.many flagEntry text = (flags, rest) ↔
      text = flags.flatMap flagLine ++ rest ∧ flagEntry rest = none :=
  inverts_flagEntry.many_eq_iff flagLine_ne_nil

theorem flagEntry_closing (rest : List Char) : flagEntry ("],".toList ++ rest) = none :=
  rfl

/-- Up to the closing bracket there are the lines of some flags, or nothing. -/
theorem entries_eq_some_iff {text rest : List Char} {flags : List String} :
    entries text = some (flags, "],".toList ++ rest) ↔
      text = (if flags.isEmpty then [] else '\n' :: flags.flatMap flagLine) ++
        ("],".toList ++ rest) := by
  constructor
  · intro read
    unfold entries at read
    split at read
    case h_1 text =>
      split at read
      case h_1 => cases read
      case h_2 first more behind many =>
        cases read
        rw [(many_flagEntry_eq_iff.1 many).1]
        rfl
    case h_2 =>
      cases read
      rfl
  · intro written
    subst written
    cases flags with
    | nil => rfl
    | cons flag flags =>
        have many : Reader.many flagEntry ((flag :: flags).flatMap flagLine ++
            ("],".toList ++ rest)) = (flag :: flags, "],".toList ++ rest) :=
          many_flagEntry_eq_iff.2 ⟨rfl, flagEntry_closing rest⟩
        rw [List.isEmpty_cons, if_neg Bool.false_ne_true, List.cons_append, entries, many]

/-- The property is read as some flags exactly if it is what is written for
them. -/
theorem inverts_property : Reader.Inverts property fragment := by
  intro text flags rest
  unfold property fragment
  simp only [enclosed_eq_some_iff, entries_eq_some_iff, List.append_assoc, exists_eq_right]

end DeviceFlags.Blueprint
