import DeviceFlags.Toml.Value

/-!
# Building tables

A document names its tables piecemeal: by headers, by dotted keys and by both
at once.  The operations here add one piece to the entries built so far, or
fail where the piece contradicts them: a key given twice, a table opened twice,
a dotted key that reaches into a table already finished, a value used as a
table.
-/

namespace DeviceFlags.Toml

/-- A key of one part or more: the tables to go through, and the name in the
last of them. -/
structure KeyPath where
  parents : List String
  name : String
  deriving DecidableEq, Repr

/-- A key and the value given to it. -/
structure Assignment where
  key : KeyPath
  value : Value

/-- Whether a dotted key with the parts `beyond` still to come may go through a
table.  The table that receives the value must itself stem from a dotted key. -/
def Origin.admits (origin : Origin) (beyond : List String) : Bool :=
  match origin with
  | .inline | .header => false
  | .implied => !beyond.isEmpty
  | .dotted => true

namespace Entries

/-- The value of a key. -/
def find? (entries : Entries) (key : String) : Option Value :=
  entries.lookup key

/-- The entries without a key. -/
def erase (entries : Entries) (key : String) : Entries :=
  entries.filter (·.1 != key)

/-- Changes the value of a key in its place, or appends a value for a key that
was absent.  Fails where the change fails. -/
def change (key : String) (edit : Option Value → Option Value) : Entries → Option Entries
  | [] => (edit none).map fun value => [(key, value)]
  | (name, value) :: rest =>
      if name = key then (edit (some value)).map fun value => (name, value) :: rest
      else (change key edit rest).map ((name, value) :: ·)

/-- Appends a value for a key that is absent. -/
def add (name : String) (value : Value) (entries : Entries) : Option Entries :=
  if (entries.find? name).isSome then none else some (entries ++ [(name, value)])

/-- Gives a value to a dotted key.  Tables on the way are created as needed. -/
def assign (name : String) (value : Value) : (parents : List String) → Entries → Option Entries
  | [], entries => add name value entries
  | parent :: beyond, entries =>
      entries.change parent fun
        | none => (assign name value beyond []).map (.table .dotted)
        | some (.table origin inner) =>
            if origin.admits beyond then (assign name value beyond inner).map (.table origin)
            else none
        | some (.tables earlier last) =>
            if beyond.isEmpty then none
            else (assign name value beyond last).map (.tables earlier)
        | some _ => none

/-- Carries out assignments one after another. -/
def assignAll (entries : Entries) (assignments : List Assignment) : Option Entries :=
  assignments.foldlM
    (fun entries assignment =>
      entries.assign assignment.key.name assignment.value assignment.key.parents)
    entries

/-- Changes the table that a header's parents lead to.  Headers reach into
every table that is not written between braces, and into the last table of an
array of tables. -/
def within (edit : Entries → Option Entries) : (parents : List String) → Entries → Option Entries
  | [], entries => edit entries
  | parent :: beyond, entries =>
      entries.change parent fun
        | none => (within edit beyond []).map (.table .implied)
        | some (.table .inline _) => none
        | some (.table origin inner) => (within edit beyond inner).map (.table origin)
        | some (.tables earlier last) => (within edit beyond last).map (.tables earlier)
        | some _ => none

/-- Opens a table under a name that is absent or has only been implied, and
fills it.  The table takes its place behind all entries present. -/
def openTable (name : String) (assignments : List Assignment) (entries : Entries) :
    Option Entries :=
  match entries.find? name with
  | none => do
      let inner ← assignAll [] assignments
      return entries ++ [(name, .table .header inner)]
  | some (.table .implied inner) => do
      let inner ← assignAll inner assignments
      return entries.erase name ++ [(name, .table .header inner)]
  | some _ => none

/-- Appends a table to the array of tables under a name, and fills it. -/
def openElement (name : String) (assignments : List Assignment) (entries : Entries) :
    Option Entries := do
  let inner ← assignAll [] assignments
  entries.change name fun
    | none => some (.tables [] inner)
    | some (.tables earlier last) => some (.tables (earlier ++ [last]) inner)
    | some _ => none

end Entries

end DeviceFlags.Toml
