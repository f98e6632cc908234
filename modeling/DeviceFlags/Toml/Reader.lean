/-!
# Readers

A reader takes something off the front of a text and returns it with the rest,
or fails.  Failures carry no reason: a text either is a document or is not.
-/

namespace DeviceFlags.Toml

/-- Takes a value off the front of a text. -/
abbrev Reader (α : Type) := List Char → Option (α × List Char)

namespace Reader

variable {α β : Type}

/-- Applies a function to what is read. -/
def map (image : α → β) (reader : Reader α) : Reader β :=
  fun text => (reader text).map fun (value, rest) => (image value, rest)

/-- Skips before and after what is read. -/
def between (skip : List Char → List Char) (reader : Reader α) : Reader α :=
  fun text => (reader (skip text)).map fun (value, rest) => (value, skip rest)

/-- Reads behind a mark. -/
def after (mark : Char) (reader : Reader α) : Reader α
  | [] => none
  | c :: rest => if c = mark then reader rest else none

/-- Reads as often as possible.  A round that uses up nothing ends the
repetition, so it always comes to an end. -/
def many (reader : Reader α) (text : List Char) : List α × List Char :=
  match reader text with
  | none => ([], text)
  | some (value, rest) =>
      if rest.length < text.length then
        let others := many reader rest
        (value :: others.1, others.2)
      else
        ([], text)
termination_by text.length

/-- Reads any number of items with a mark between each two. -/
def separated (mark : Char) (reader : Reader α) (text : List Char) : List α × List Char :=
  match reader text with
  | none => ([], text)
  | some (first, rest) =>
      let others := many (after mark reader) rest
      (first :: others.1, others.2)

/-- Reads items until the text is used up.  Fails where an item fails or uses
up nothing. -/
def all? (reader : Reader α) (text : List Char) : Option (List α) :=
  if text.isEmpty then some []
  else
    match reader text with
    | none => none
    | some (value, rest) =>
        if rest.length < text.length then (all? reader rest).map (value :: ·) else none
termination_by text.length

end Reader

/-- Takes one given character off the front. -/
def expect (c : Char) : List Char → Option (List Char)
  | [] => none
  | head :: rest => if head = c then some rest else none

/-- Whether a character separates tokens inside a line. -/
def isSpace (c : Char) : Bool :=
  c == ' ' || c == '\t'

/-- Drops spaces and tabs. -/
def skipSpace (text : List Char) : List Char :=
  text.dropWhile isSpace

/-- Whether a character may stand for itself in comments and strings: the tab
and whatever is not a control. -/
def isPlain (c : Char) : Bool :=
  c == '\t' || (0x20 ≤ c.toNat && c.toNat != 0x7F)

/-- Takes off a line feed, alone or behind a carriage return. -/
def newline? : List Char → Option (List Char)
  | '\n' :: rest => some rest
  | '\r' :: '\n' :: rest => some rest
  | _ => none

/-- Drops a comment, up to the line end. -/
def skipComment : List Char → List Char
  | '#' :: rest => rest.dropWhile isPlain
  | text => text

/-- Takes off the end of a line: spaces, a comment, and a line feed unless the
text ends there. -/
def lineEnd? (text : List Char) : Option (List Char) :=
  match skipComment (skipSpace text) with
  | [] => some []
  | rest => newline? rest

/-- Drops spaces, line feeds and, when inside a comment, its characters.  A
comment ends at a line feed. -/
def skipLayoutFrom (inComment : Bool) : List Char → List Char
  | [] => []
  | '\n' :: rest => skipLayoutFrom false rest
  | '\r' :: '\n' :: rest => skipLayoutFrom false rest
  | c :: rest =>
      if inComment then
        if isPlain c then skipLayoutFrom true rest else c :: rest
      else if isSpace c then skipLayoutFrom false rest
      else if c = '#' then skipLayoutFrom true rest
      else c :: rest

/-- Drops what may stand between the elements of an array: spaces, comments
and line feeds. -/
def skipLayout (text : List Char) : List Char :=
  skipLayoutFrom false text

end DeviceFlags.Toml
