import DeviceFlags.Decimal
import DeviceFlags.Text.Quoted

/-!
# Values of a TOML document

A table keeps its entries in the order in which they were written, and
remembers how it came to be: that decides what may still be added to it while
the rest of the document is read.
-/

namespace DeviceFlags.Toml

/-- A day of the calendar. -/
structure Date where
  year : Nat
  month : Nat
  day : Nat
  deriving DecidableEq, Repr

/-- A time of day.  The digits of the fraction are kept as written. -/
structure Time where
  hour : Nat
  minute : Nat
  second : Nat
  fraction : List Char
  deriving DecidableEq, Repr

/-- A date, a time, or both with an optional distance to UTC in minutes. -/
inductive Moment where
  | day (date : Date)
  | timeOfDay (time : Time)
  | dayTime (date : Date) (time : Time)
  | instant (date : Date) (time : Time) (minutes : Int)
  deriving DecidableEq, Repr

/-- How a table came to be. -/
inductive Origin where
  /-- Written between braces: nothing reaches into it any more. -/
  | inline
  /-- Opened by a header of its own: its header cannot come again, and no dotted
  key reaches into it. -/
  | header
  /-- Named in passing by the header of a table inside it. -/
  | implied
  /-- Named in passing by a dotted key. -/
  | dotted
  deriving DecidableEq, Repr

/-- A value of a document. -/
inductive Value where
  | string (text : String)
  | integer (number : Int)
  | float (number : Float)
  | truth (value : Bool)
  | moment (moment : Moment)
  | array (elements : List Value)
  | table (origin : Origin) (entries : List (String × Value))
  /-- The tables opened by repeated headers in double brackets; the last one is
  the one that later headers reach into. -/
  | tables (earlier : List (List (String × Value))) (last : List (String × Value))

/-- The entries of a table, in the order of the document. -/
abbrev Entries := List (String × Value)

namespace Value

/-- The elements of a sequence. -/
def elements? : Value → Option (List Value)
  | .array elements => some elements
  | .tables earlier last => some ((earlier ++ [last]).map (.table .header))
  | _ => none

/-- The entries of a table.  A date or time is read as a table none of whose
keys anyone asks for. -/
def entries? : Value → Option Entries
  | .table _ entries => some entries
  | .moment _ => some []
  | _ => none

/-- What a report calls a value. -/
def description : Value → String
  | .string text => "string " ++ Text.quoted text
  | .integer number => "integer `" ++ toString number ++ "`"
  | .float number => "floating point `" ++ Decimal.render number ++ "`"
  | .truth value => "boolean `" ++ (if value then "true" else "false") ++ "`"
  | .array _ | .tables _ _ => "sequence"
  | .table _ _ | .moment _ => "map"

end Value

end DeviceFlags.Toml
