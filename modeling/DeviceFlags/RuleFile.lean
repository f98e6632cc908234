import DeviceFlags.Event
import DeviceFlags.Files.FileSystem
import DeviceFlags.RuleTable.Issue
import DeviceFlags.RuleTable.Toml

/-!
# Rule files

A rule file holds a rule table as TOML.  It is loaded as it is, or loaded and
checked: then a table with an error is refused, and a warning only leaves an
event.  A project keeps its rule files in its directory `rules`, each under a
name with a fixed ending.
-/

namespace DeviceFlags

/-- Why a rule file gives no table. -/
inductive RuleFileError where
  /-- Nothing is at the path. -/
  | notFound (path : Path)
  /-- What is at the path gives no text. -/
  | unreadable (error : FileError)
  /-- The text gives no table. -/
  | unfit (error : Toml.ReadError)
  /-- The table has errors. -/
  | rejected (path : Path) (errors : List Issue)

/-- The list of errors in a refused file. -/
def issueReport (path : Path) (errors : List Issue) : String :=
  path.text ++ ": " ++ "; ".intercalate (errors.map Issue.located)

namespace RuleFileError

/-- What an error says of itself.  Where the document is at fault, the words
for the fault follow; for a text that is no document there are none. -/
def message : RuleFileError → String
  | .notFound path => "rule file not found: " ++ path.text
  | .unreadable error => "I/O error: " ++ error.message
  | .unfit .malformed => "TOML parse error"
  | .unfit (.schema error) => error.message
  | .rejected path errors => "validation error: " ++ issueReport path errors

/-- The account of an error in a chain of causes.  An error that has a cause of
its own names it twice: in its own words, and as the next link. -/
def account : RuleFileError → String
  | .unreadable error => "I/O error: " ++ error.message ++ ": " ++ error.message
  | .unfit _ => "TOML parse error: TOML parse error"
  | error => error.message

end RuleFileError

namespace RuleFile

/-- Loads a table without looking at its rules. -/
def load (files : FileSystem) (path : Path) : Except RuleFileError RuleTable :=
  match files.readText path with
  | .error .absent => .error (.notFound path)
  | .error error => .error (.unreadable error)
  | .ok text => (RuleTable.ofToml text).mapError .unfit

/-- The event for a warning about a rule of a file. -/
def doubt (path : Path) (issue : Issue) : Event :=
  .ruleDoubted path.text issue.rule issue.fault.message

/-- Loads a table and refuses it if one of its rules is in error. -/
def loadChecked (files : FileSystem) (path : Path) :
    Logged Event (Except RuleFileError RuleTable) :=
  match load files path with
  | .error error => .silent (.error error)
  | .ok table =>
      { value := if table.errors.isEmpty then .ok table else .error (.rejected path table.errors)
        events := table.warnings.map (doubt path) }

/-- The name of the directory that holds the rule files of a project. -/
def directoryName : String := "rules"

/-- The ending of the name of a rule file. -/
def ending : List Char :=
  ".rules.toml".toList

/-- The name of a rule file without its ending. -/
def stem? (name : String) : Option String :=
  let characters := name.toList
  let kept := characters.length - ending.length
  if characters.drop kept = ending then some (String.ofList (characters.take kept)) else none

/-- The stems of the rule files among the names in a directory.  A name that is
not text is none. -/
def stems (names : List FileName) : List String :=
  names.filterMap fun
    | .text name => stem? name
    | .bytes _ => none

/-- The rule files of a project: their stems in ascending order, and their
paths. -/
def discover (files : FileSystem) (project : Path) : List (String × Path) :=
  let directory := project.join directoryName
  let sorted := (stems (files.list directory)).mergeSort (fun first second => first ≤ second)
  sorted.map fun stem => (stem, directory.join (stem ++ String.ofList ending))

end RuleFile

end DeviceFlags
