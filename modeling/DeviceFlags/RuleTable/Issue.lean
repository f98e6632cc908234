import DeviceFlags.RuleTable.Basic
import DeviceFlags.Text.CharClass

/-!
# Validation of rule tables

A table is checked rule by rule.  An error makes the table unusable: a rule
without a device or without a flag, or a flag that is not a single compiler
argument.  A warning points at a rule that is probably a mistake: a flag that
does not look like an option, or an exact repetition of an earlier rule.
-/

namespace DeviceFlags

/-- How much an issue weighs. -/
inductive Severity where
  | error
  | warning
  deriving DecidableEq, Repr

/-- The word for a severity in reports. -/
def Severity.word : Severity → String
  | .error => "error"
  | .warning => "warning"

/-- What can be wrong with a rule. -/
inductive Fault where
  /-- The rule names no device. -/
  | noDevice
  /-- The rule has no flag. -/
  | noFlag (device : String)
  /-- The flag holds white space, so it is not one argument. -/
  | blankInFlag (flag : String)
  /-- The flag does not begin with a hyphen. -/
  | noHyphen (flag : String)
  /-- An earlier rule is the same. -/
  | repeated (device flag : String)
  deriving DecidableEq, Repr

namespace Fault

/-- The severity of a fault. -/
def severity : Fault → Severity
  | .noDevice | .noFlag _ | .blankInFlag _ => .error
  | .noHyphen _ | .repeated _ _ => .warning

/-- The description of a fault. -/
def message : Fault → String
  | .noDevice => "device name is empty"
  | .noFlag device => "flag for device '" ++ device ++ "' is empty"
  | .blankInFlag flag => "flag '" ++ flag ++ "' contains whitespace"
  | .noHyphen flag => "flag '" ++ flag ++ "' does not start with '-'"
  | .repeated device flag =>
      "duplicate rule for device '" ++ device ++ "' with flag '" ++ flag ++ "'"

end Fault

/-- A fault of the rule at a position in its table. -/
structure Issue where
  rule : Nat
  fault : Fault
  deriving DecidableEq, Repr

namespace Issue

/-- The severity of the fault. -/
def severity (issue : Issue) : Severity :=
  issue.fault.severity

/-- Whether the issue makes its table unusable. -/
def isError (issue : Issue) : Bool :=
  issue.severity == .error

/-- The issue with the position of its rule. -/
def located (issue : Issue) : String :=
  "rule " ++ toString issue.rule ++ ": " ++ issue.fault.message

end Issue

namespace Rule

/-- The faults of a rule that follows the rules `earlier`.  An empty flag hides
every other fault of the flag. -/
def faults (earlier : List Rule) (rule : Rule) : List Fault :=
  (if rule.device = "" then [.noDevice] else []) ++
    if rule.flag = "" then [.noFlag rule.device]
    else
      (if Text.hasBlank rule.flag then [.blankInFlag rule.flag] else []) ++
      (if rule.flag.toList.head? = some '-' then [] else [.noHyphen rule.flag]) ++
      (if rule ∈ earlier then [.repeated rule.device rule.flag] else [])

end Rule

namespace RuleTable

/-- The issues of the rules `pending` when the rules `earlier` come before
them. -/
def issuesAfter (earlier : List Rule) : (pending : List Rule) → List Issue
  | [] => []
  | rule :: rest =>
      (rule.faults earlier).map (Issue.mk earlier.length) ++ issuesAfter (earlier ++ [rule]) rest

/-- The issues of a table, by position and, at one position, in the order of
the checks. -/
def issues (table : RuleTable) : List Issue :=
  issuesAfter [] table.rules

/-- The issues that make the table unusable. -/
def errors (table : RuleTable) : List Issue :=
  table.issues.filter (·.isError)

/-- The issues that leave the table usable. -/
def warnings (table : RuleTable) : List Issue :=
  table.issues.filter (!·.isError)

end RuleTable

end DeviceFlags
