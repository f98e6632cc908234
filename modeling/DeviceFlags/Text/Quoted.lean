import DeviceFlags.Text.CharClass

/-!
# Diagnostic quoting

The form in which reports show a piece of text: between double quotes, with
every character that would not be seen replaced by an escape.
-/

namespace DeviceFlags.Text

/-- Whether a character is shown by its code point: it would not be seen, it may
be left out of sight, or it would be drawn together with the character before
it. -/
def isHidden (c : Char) : Bool :=
  isUnseen c || isIgnorable c || isExtending c

/-- One character between diagnostic quotes: short escapes first, then the
code point in small hexadecimal digits for what would not be seen. -/
def showChar (c : Char) : List Char :=
  if c = '"' then ['\\', '"']
  else if c = '\\' then ['\\', '\\']
  else if c = '\n' then ['\\', 'n']
  else if c = '\r' then ['\\', 'r']
  else if c = '\t' then ['\\', 't']
  else if c.toNat = 0 then ['\\', '0']
  else if isHidden c then ['\\', 'u', '{'] ++ Nat.toDigits 16 c.toNat ++ ['}']
  else [c]

/-- A text between diagnostic quotes. -/
def quoted (text : String) : String :=
  String.ofList ('"' :: text.toList.flatMap showChar ++ ['"'])

/-- A list of texts, each between diagnostic quotes. -/
def quotedList (texts : List String) : String :=
  "[" ++ ", ".intercalate (texts.map quoted) ++ "]"

end DeviceFlags.Text
