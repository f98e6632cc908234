import DeviceFlags.RuleTable.Basic
import DeviceFlags.Toml.Schema
import DeviceFlags.Toml.StringLiteral.Printer

/-!
# Rule tables as TOML

A rule table is stored as an array of tables called `rule`, one table for each
rule with the keys `device` and `flag`.
-/

namespace DeviceFlags

open Toml (Entries Value SchemaError ReadError)

namespace Rule

/-- The name of a rule in reports. -/
def recordName : String := "FlagRule"

/-- Checks a field of a rule. -/
def checkField (key : String) (value : Value) : Except SchemaError Unit :=
  if key = "device" ∨ key = "flag" then value.text.map fun _ => () else .ok ()

/-- A rule from the entries of a table.  A field of the wrong kind counts
before one that is missing. -/
def ofEntries (entries : Entries) : Except SchemaError Rule := do
  entries.check checkField
  let device ← (← entries.require "device").text
  let flag ← (← entries.require "flag").text
  return ⟨device, flag⟩

/-- A rule from the elements of an array. -/
def ofElements : List Value → Except SchemaError Rule
  | [] => .error (.tooFew 0 recordName 2)
  | [device] => do
      let _ ← device.text
      throw (.tooFew 1 recordName 2)
  | device :: flag :: _ => do
      let device ← device.text
      let flag ← flag.text
      return ⟨device, flag⟩

/-- A rule from a value of a document. -/
def ofValue (value : Value) : Except SchemaError Rule :=
  value.asRecord recordName ofEntries ofElements

/-- The lines of a rule in a document. -/
def toToml (rule : Rule) : List Char :=
  "[[rule]]\ndevice = ".toList ++ Toml.StringLiteral.print rule.device.toList ++
    "\nflag = ".toList ++ Toml.StringLiteral.print rule.flag.toList ++ ['\n']

end Rule

namespace RuleTable

/-- The table that a document holds.  A document without rules holds the empty
table. -/
def ofEntries (entries : Entries) : Except SchemaError RuleTable :=
  match entries.find? "rule" with
  | none => .ok ∅
  | some value => do
      let elements ← value.asSequence
      let rules ← elements.mapM Rule.ofValue
      return ⟨rules⟩

/-- Reads a table from the text of a document. -/
def ofToml (text : String) : Except ReadError RuleTable :=
  Toml.readText ofEntries text

/-- The rules of a document, with an empty line between each two. -/
def rulesToml : List Rule → List Char
  | [] => []
  | [rule] => rule.toToml
  | rule :: next :: rest => rule.toToml ++ '\n' :: rulesToml (next :: rest)

/-- The document for a table. -/
def toTomlChars (table : RuleTable) : List Char :=
  if table.isEmpty then "rule = []\n".toList else rulesToml table.rules

/-- The text of the document for a table. -/
def toToml (table : RuleTable) : String :=
  String.ofList table.toTomlChars

/-- A document to start from: the rules that hold without any file. -/
def template : String :=
  builtin.toToml

end RuleTable

end DeviceFlags
