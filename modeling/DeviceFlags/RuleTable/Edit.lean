import DeviceFlags.RuleTable.Toml

/-!
# Growing a rule table

The ways to add to a table in memory.  Rules are only ever added behind those
present; a text that holds no table adds nothing.
-/

namespace DeviceFlags

/-- A way to add to a table. -/
inductive TableEdit where
  /-- Adds a rule. -/
  | push (rule : Rule)
  /-- Adds the rules of another table. -/
  | append (table : RuleTable)
  /-- Adds a copy of the rules present. -/
  | double
  /-- Adds the rules that a text holds. -/
  | appendText (text : String)
  /-- Writes the table as a text and takes the table that is read back. -/
  | reread
  deriving DecidableEq, Repr

namespace RuleTable

/-- The table after an edit, or why the text of the edit holds no table. -/
def edit (table : RuleTable) : TableEdit → Except Toml.ReadError RuleTable
  | .push rule => .ok (table.push rule)
  | .append added => .ok (table ++ added)
  | .double => .ok (table ++ table)
  | .appendText text => (ofToml text).map (table ++ ·)
  | .reread => ofToml table.toToml

/-- The table after a list of edits.  An edit that fails changes nothing. -/
def editAll (table : RuleTable) (edits : List TableEdit) : RuleTable :=
  edits.foldl (fun table edit => (table.edit edit).toOption.getD table) table

end RuleTable

end DeviceFlags
