import DeviceFlags.Text.Hex

/-!
# Writing string literals

A string is written in the plainest form that can hold it: between double
quotes if nothing in it needs care, else between single quotes, else between
three quotes, and with escapes only where no form does without.
-/

namespace DeviceFlags.Toml.StringLiteral

/-- The forms of a string literal. -/
inductive Form where
  | basic
  | literal
  | multilineBasic
  | multilineLiteral
  deriving DecidableEq, Repr

/-- Whether a character is a control that only an escape can write.  The tab
and the line feed are none. -/
def needsEscape (c : Char) : Bool :=
  c.toNat < 0x09 || (0x0A < c.toNat && c.toNat < 0x20) || c.toNat == 0x7F

/-- Whether a mark comes three times in a row. -/
def hasTriple (mark : Char) : List Char → Bool
  | first :: second :: third :: rest =>
      (first == mark && second == mark && third == mark) ||
        hasTriple mark (second :: third :: rest)
  | _ => false

/-- The form for a text: the first of the five cases that applies. -/
def Form.of (text : List Char) : Form :=
  let escapes := text.any needsEscape
  let backslash := text.contains '\\'
  let lines := text.contains '\n'
  if !escapes && !backslash && !text.contains '"' && !lines then .basic
  else if !escapes && !text.contains '\'' && !lines then .literal
  else if !escapes && !backslash && !hasTriple '"' text then .multilineBasic
  else if !escapes && !hasTriple '\'' text then .multilineLiteral
  else if lines then .multilineBasic
  else .basic

/-- A character other than the quote and the line feed between double
quotes. -/
def escapeChar (c : Char) : List Char :=
  if c = '\\' then ['\\', '\\']
  else if c.toNat = 0x08 then ['\\', 'b']
  else if c = '\t' then ['\\', 't']
  else if c.toNat = 0x0C then ['\\', 'f']
  else if c = '\r' then ['\\', 'r']
  else if needsEscape c then ['\\', 'u'] ++ Text.Hex.padded Text.Hex.upperDigit 4 c.toNat
  else [c]

/-- A character between double quotes on one line. -/
def escapeBasic (c : Char) : List Char :=
  if c = '"' then ['\\', '"']
  else if c = '\n' then ['\\', 'n']
  else escapeChar c

/-- A text between three double quotes.  Of three quotes in a row the third is
escaped; `quotes` counts those since the last character of another kind. -/
def escapeMultiline (quotes : Nat) : List Char → List Char
  | [] => []
  | c :: rest =>
      if c = '"' then
        if quotes = 2 then ['\\', '"'] ++ escapeMultiline 0 rest
        else '"' :: escapeMultiline (quotes + 1) rest
      else if c = '\n' then '\n' :: escapeMultiline 0 rest
      else escapeChar c ++ escapeMultiline 0 rest

/-- The line feed behind opening quotes that keeps a text with lines on lines
of its own. -/
def opening (text : List Char) : List Char :=
  if text.contains '\n' then ['\n'] else []

/-- A string literal with its quotes. -/
def print (text : List Char) : List Char :=
  match Form.of text with
  | .basic => '"' :: text.flatMap escapeBasic ++ ['"']
  | .literal => '\'' :: text ++ ['\'']
  | .multilineBasic =>
      ['"', '"', '"'] ++ opening text ++ escapeMultiline 0 text ++ ['"', '"', '"']
  | .multilineLiteral =>
      ['\'', '\'', '\''] ++ opening text ++ text ++ ['\'', '\'', '\'']

end DeviceFlags.Toml.StringLiteral
