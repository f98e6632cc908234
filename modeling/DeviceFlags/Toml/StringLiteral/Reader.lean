import DeviceFlags.Text.Hex
import DeviceFlags.Toml.Reader

/-!
# Reading string literals

A string stands between double quotes, where a backslash begins an escape, or
between single quotes, where nothing does.  Three quotes in place of one open a
string that may hold line feeds and quotes; a line feed right behind the
opening quotes is not part of it.  A carriage return before a line feed is
dropped, so the value does not depend on the line ends of the file.

The readers start behind the opening quotes and take the closing ones off.
-/

namespace DeviceFlags.Toml.StringLiteral

/-- The character with a given code point, if there is one. -/
def scalar? (code : Nat) : Option Char :=
  if code < 0xD800 || (0xDFFF < code && code < 0x110000) then some (Char.ofNat code) else none

/-- A character given by a fixed number of hexadecimal digits. -/
def codePoint (width : Nat) : Reader Char := fun text =>
  if width ≤ text.length then
    ((Text.Hex.number? (text.take width)).bind scalar?).map (·, text.drop width)
  else
    none

/-- The escape behind a backslash. -/
def escape : Reader Char
  | 'b' :: rest => some ('\x08', rest)
  | 't' :: rest => some ('\t', rest)
  | 'n' :: rest => some ('\n', rest)
  | 'f' :: rest => some ('\x0c', rest)
  | 'r' :: rest => some ('\r', rest)
  | '"' :: rest => some ('"', rest)
  | '\\' :: rest => some ('\\', rest)
  | 'u' :: rest => codePoint 4 rest
  | 'U' :: rest => codePoint 8 rest
  | _ => none

theorem codePoint_length_le {width : Nat} {text rest : List Char} {c : Char}
    (read : codePoint width text = some (c, rest)) : rest.length ≤ text.length := by
  simp only [codePoint] at read
  split at read
  · obtain ⟨_, _, equal⟩ := Option.map_eq_some_iff.1 read
    cases equal
    simp
  · contradiction

theorem escape_length_lt {text rest : List Char} {c : Char}
    (read : escape text = some (c, rest)) : rest.length < text.length := by
  unfold escape at read
  split at read
  case h_8 => exact Nat.lt_succ_of_le (codePoint_length_le read)
  case h_9 => exact Nat.lt_succ_of_le (codePoint_length_le read)
  case h_10 => contradiction
  all_goals
    cases read
    simp

/-- Puts a character in front of what a reader has read. -/
def push (c : Char) (read : Option (List Char × List Char)) : Option (List Char × List Char) :=
  read.map fun (text, rest) => (c :: text, rest)

/-- A string up to its closing double quote, on one line. -/
def basic : Reader (List Char)
  | [] => none
  | c :: rest =>
      if c = '"' then some ([], rest)
      else if c = '\\' then
        match _read : escape rest with
        | none => none
        | some (escaped, rest') => push escaped (basic rest')
      else if isPlain c then push c (basic rest)
      else none
termination_by text => text.length
decreasing_by
  · have := escape_length_lt _read
    simp only [List.length_cons]
    omega
  · simp

/-- A string up to its closing single quote, on one line. -/
def literal : Reader (List Char)
  | [] => none
  | c :: rest =>
      if c = '\'' then some ([], rest)
      else if isPlain c then push c (literal rest)
      else none

/-- The closing three quotes, together with up to two quotes before them that
belong to the string. -/
def closing? (mark : Char) : Reader (List Char)
  | first :: second :: third :: rest =>
      if first = mark ∧ second = mark ∧ third = mark then
        match rest with
        | fourth :: fifth :: beyond =>
            if fourth = mark then
              if fifth = mark then some ([mark, mark], beyond) else some ([mark], fifth :: beyond)
            else
              some ([], rest)
        | [fourth] => if fourth = mark then some ([mark], []) else some ([], rest)
        | [] => some ([], [])
      else
        none
  | _ => none

/-- Drops a line feed right behind the opening quotes. -/
def dropFirstNewline (text : List Char) : List Char :=
  (newline? text).getD text

/-- Whether a character is a space, a tab or part of a line end. -/
def isLayout (c : Char) : Bool :=
  isSpace c || c == '\n'

/-- Drops spaces, tabs and line feeds. -/
def skipBlankLines : List Char → List Char
  | [] => []
  | '\r' :: '\n' :: rest => skipBlankLines rest
  | c :: rest => if isLayout c then skipBlankLines rest else c :: rest

/-- What follows a backslash at the end of a line: the next text that is not
blank. -/
def continued? (text : List Char) : Option (List Char) :=
  (newline? (skipSpace text)).map skipBlankLines

theorem newline?_length_lt {text rest : List Char} (read : newline? text = some rest) :
    rest.length < text.length := by
  unfold newline? at read
  split at read
  case h_3 => contradiction
  all_goals
    cases read
    simp only [List.length_cons]
    omega

theorem skipSpace_length_le (text : List Char) : (skipSpace text).length ≤ text.length :=
  (List.dropWhile_sublist _).length_le

theorem skipBlankLines_length_le (text : List Char) :
    (skipBlankLines text).length ≤ text.length := by
  fun_induction skipBlankLines text <;> simp_all <;> omega

theorem continued?_length_lt {text rest : List Char} (read : continued? text = some rest) :
    rest.length < text.length := by
  obtain ⟨behind, newline, rfl⟩ := Option.map_eq_some_iff.1 read
  have first := newline?_length_lt newline
  have second := skipSpace_length_le text
  have third := skipBlankLines_length_le behind
  omega

/-- A string up to its closing three double quotes. -/
def multilineBasic (text : List Char) : Option (List Char × List Char) :=
  match closing? '"' text with
  | some closed => some closed
  | none =>
      match text with
      | [] => none
      | '\r' :: '\n' :: rest => push '\n' (multilineBasic rest)
      | c :: rest =>
          if c = '\\' then
            match _fold : continued? rest with
            | some rest' => multilineBasic rest'
            | none =>
                match _read : escape rest with
                | none => none
                | some (escaped, rest') => push escaped (multilineBasic rest')
          else if isPlain c || c == '\n' then push c (multilineBasic rest)
          else none
termination_by text.length
decreasing_by
  · simp only [List.length_cons]
    omega
  · have := continued?_length_lt _fold
    simp only [List.length_cons]
    omega
  · have := escape_length_lt _read
    simp only [List.length_cons]
    omega
  · simp

/-- A string up to its closing three single quotes. -/
def multilineLiteral (text : List Char) : Option (List Char × List Char) :=
  match closing? '\'' text with
  | some closed => some closed
  | none =>
      match text with
      | [] => none
      | '\r' :: '\n' :: rest => push '\n' (multilineLiteral rest)
      | c :: rest =>
          if isPlain c || c == '\n' then push c (multilineLiteral rest) else none

/-- A string on one line, with its quotes. -/
def line : Reader (List Char)
  | '"' :: rest => basic rest
  | '\'' :: rest => literal rest
  | _ => none

/-- A string in any of the four forms, with its quotes. -/
def read : Reader (List Char)
  | '"' :: '"' :: '"' :: rest => multilineBasic (dropFirstNewline rest)
  | '\'' :: '\'' :: '\'' :: rest => multilineLiteral (dropFirstNewline rest)
  | text => line text

end DeviceFlags.Toml.StringLiteral
