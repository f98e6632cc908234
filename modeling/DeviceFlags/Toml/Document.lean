import DeviceFlags.Toml.Expression

/-!
# Documents

A document is a list of lines: assignments, headers and blanks.  The
assignments up to the first header belong to the document itself, those behind
a header to the table that it opens.
-/

namespace DeviceFlags.Toml

/-- A header and what it opens. -/
inductive Header where
  /-- A table with single brackets. -/
  | table (key : KeyPath)
  /-- One more table of an array, with double brackets. -/
  | element (key : KeyPath)

/-- A line that is not blank. -/
inductive Line where
  | assignment (assignment : Assignment)
  | header (header : Header)

namespace Header

/-- A header with its brackets. -/
def read : Reader Header
  | '[' :: '[' :: text => do
      let (key, text) ← KeyPath.read text
      let text ← expect ']' text
      let text ← expect ']' text
      return (.element key, text)
  | '[' :: text => do
      let (key, text) ← KeyPath.read text
      let text ← expect ']' text
      return (.table key, text)
  | _ => none

end Header

namespace Line

/-- What a line holds, without its end.  Nothing is read of a blank line. -/
def content : Reader (Option Line) := fun text =>
  match text with
  | [] | '\n' :: _ | '\r' :: _ | '#' :: _ => some (none, text)
  | '[' :: _ => Reader.map (some ∘ .header) Header.read text
  | _ => Reader.map (some ∘ .assignment) (Assignment.read Value.read) text

/-- A line with its end. -/
def read : Reader (Option Line) := fun text => do
  let (line, rest) ← content (skipSpace text)
  let rest ← lineEnd? rest
  return (line, rest)

end Line

/-- A header and the assignments behind it. -/
structure Section where
  header : Header
  assignments : List Assignment

/-- The assignments before the first header, and the sections. -/
def sections : List Line → List Assignment × List Section
  | [] => ([], [])
  | .assignment assignment :: rest =>
      let (assignments, others) := sections rest
      (assignment :: assignments, others)
  | .header header :: rest =>
      let (assignments, others) := sections rest
      ([], ⟨header, assignments⟩ :: others)

/-- Adds what a section opens to the entries of a document. -/
def Entries.addSection (entries : Entries) (added : Section) : Option Entries :=
  match added.header with
  | .table key => entries.within (Entries.openTable key.name added.assignments) key.parents
  | .element key => entries.within (Entries.openElement key.name added.assignments) key.parents

/-- The entries of the document with the given lines. -/
def Entries.ofLines? (lines : List Line) : Option Entries := do
  let (assignments, others) := sections lines
  let entries ← Entries.assignAll [] assignments
  others.foldlM Entries.addSection entries

/-- Drops a byte order mark. -/
def dropByteOrderMark : List Char → List Char
  | c :: rest => if c.toNat = 0xFEFF then rest else c :: rest
  | [] => []

/-- The entries of a document, or nothing if the text is not one. -/
def parse? (text : List Char) : Option Entries := do
  let lines ← Reader.all? Line.read (dropByteOrderMark text)
  Entries.ofLines? (lines.filterMap id)

end DeviceFlags.Toml
