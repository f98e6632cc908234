import DeviceFlags.Toml.Reader

/-!
# Line ends

A file ends its lines in a line feed, or in a carriage return and a line feed.
What is proved of written documents is proved for both.
-/

namespace DeviceFlags.Toml

/-- What ends the lines of a file. -/
inductive LineEnd where
  | feed
  | returnFeed
  deriving DecidableEq, Repr

namespace LineEnd

/-- The characters of a line end. -/
def chars : LineEnd → List Char
  | .feed => ['\n']
  | .returnFeed => ['\r', '\n']

/-- A text with all its line feeds written as line ends of one kind. -/
def write (ending : LineEnd) (text : List Char) : List Char :=
  text.flatMap fun c => if c = '\n' then ending.chars else [c]

variable (ending : LineEnd)

@[simp] theorem write_nil : ending.write [] = [] := rfl

@[simp] theorem write_append (first second : List Char) :
    ending.write (first ++ second) = ending.write first ++ ending.write second := by
  simp [write]

@[simp] theorem write_cons_newline (text : List Char) :
    ending.write ('\n' :: text) = ending.chars ++ ending.write text := by
  simp [write]

theorem write_cons_of_ne {c : Char} (other : c ≠ '\n') (text : List Char) :
    ending.write (c :: text) = c :: ending.write text := by
  simp [write, other]

theorem write_eq_self {text : List Char} (oneLine : '\n' ∉ text) : ending.write text = text := by
  induction text with
  | nil => rfl
  | cons c rest ih =>
      rw [List.mem_cons, not_or] at oneLine
      rw [write_cons_of_ne ending (Ne.symm oneLine.1), ih oneLine.2]

@[simp] theorem write_feed (text : List Char) : LineEnd.feed.write text = text := by
  induction text with
  | nil => rfl
  | cons c rest ih =>
      by_cases newline : c = '\n'
      · subst newline
        rw [write_cons_newline, ih]
        rfl
      · rw [write_cons_of_ne _ newline, ih]

/-- The front of a written text was there before, unless a line ends in it. -/
theorem prefix_of_prefix_write {front text : List Char} (oneLine : '\n' ∉ front ∧ '\r' ∉ front)
    (starts : front <+: ending.write text) : front <+: text := by
  induction front generalizing text with
  | nil => exact List.nil_prefix
  | cons c front ih =>
      simp only [List.mem_cons, not_or] at oneLine
      rcases oneLine with ⟨⟨feed, oneLine⟩, carriageReturn, noReturn⟩
      cases text with
      | nil => simp at starts
      | cons first text =>
          by_cases newline : first = '\n'
          · subst newline
            cases ending <;> simp_all [chars]
          · rw [write_cons_of_ne _ newline, List.cons_prefix_cons] at starts
            rw [List.cons_prefix_cons]
            exact ⟨starts.1, ih ⟨oneLine, noReturn⟩ starts.2⟩

@[simp] theorem newline?_chars (rest : List Char) :
    newline? (ending.chars ++ rest) = some rest := by
  cases ending <;> rfl

theorem length_chars_pos : 0 < ending.chars.length := by
  cases ending <;> decide

end LineEnd

end DeviceFlags.Toml
