/-!
# Events

What the program reports about its own progress, beside its answers.  An event
is recorded where it happens; the order of events is the order of the work.
-/

namespace DeviceFlags

/-- A step worth reporting. -/
inductive Event where
  /-- A rule applied to the device that is being resolved. -/
  | ruleMatched (device flag : String)
  /-- A module asks for the flags of a device. -/
  | deviceAsked (device : String)
  /-- A module was loaded, by so many hooks, and has so many flags. -/
  | moduleLoaded (name : String) (hooks cflags : Nat)
  /-- A module type was registered. -/
  | typeRegistered (name : String)
  /-- A rule file was read and holds so many rules. -/
  | fileLoaded (path : String) (rules : Nat)
  /-- A rule in a file is probably a mistake. -/
  | ruleDoubted (path : String) (rule : Nat) (message : String)
  deriving DecidableEq, Repr

/-- How much attention an event asks for. -/
inductive Level where
  | trace
  | debug
  | warning
  deriving DecidableEq, Repr

/-- The word for a level. -/
def Level.word : Level → String
  | .trace => "TRACE"
  | .debug => "DEBUG"
  | .warning => "WARN"

namespace Event

/-- The level of an event. -/
def level : Event → Level
  | .ruleMatched .. => .trace
  | .ruleDoubted .. => .warning
  | _ => .debug

/-- The description of an event, without its details. -/
def message : Event → String
  | .ruleMatched .. => "rule matched"
  | .deviceAsked _ => "DeviceName"
  | .moduleLoaded .. => "module loaded"
  | .typeRegistered _ => "registered module type"
  | .fileLoaded .. => "loaded rule file"
  | .ruleDoubted _ _ message => message

/-- The details of an event, each under its name. -/
def details : Event → List (String × String)
  | .ruleMatched device flag => [("device", device), ("flag", flag)]
  | .deviceAsked device => [("device", device)]
  | .moduleLoaded name hooks cflags =>
      [("module", name), ("hooks", toString hooks), ("cflags", toString cflags)]
  | .typeRegistered name => [("module_type", name)]
  | .fileLoaded path rules => [("path", path), ("rules", toString rules)]
  | .ruleDoubted path rule _ => [("path", path), ("rule", toString rule)]

end Event

/-- What is written of an event. -/
structure Record where
  level : Level
  message : String
  details : List (String × String)
  deriving DecidableEq, Repr

/-- The record of an event. -/
def Event.record (event : Event) : Record :=
  ⟨event.level, event.message, event.details⟩

namespace Record

/-- A record on a line of a report. -/
def line (record : Record) : String :=
  record.level.word ++ " " ++ record.message ++
    String.join (record.details.map fun (name, value) => " " ++ name ++ "=" ++ value)

/-- Whether a report shows a record: a warning always, a step of the work only
in a detailed report, and a matching rule never.  No other choice of records is
known here. -/
def isShown (detailed : Bool) (record : Record) : Bool :=
  match record.level with
  | .warning => true
  | .debug => detailed
  | .trace => false

end Record

/-- A result together with what was told on the way to it: events, or records of
them. -/
structure Logged (told α : Type) where
  value : α
  events : List told

namespace Logged

variable {α β ε told : Type}

/-- A result reached without an event. -/
def silent (value : α) : Logged told α :=
  ⟨value, []⟩

/-- Goes on from a success.  A failure ends the work, and the events up to it
remain. -/
def andThen (first : Logged told (Except ε α)) (next : α → Logged told (Except ε β)) :
    Logged told (Except ε β) :=
  match first.value with
  | .error error => ⟨.error error, first.events⟩
  | .ok value => ⟨(next value).value, first.events ++ (next value).events⟩

/-- Describes a failure anew. -/
def mapError {ε' : Type} (image : ε → ε') (logged : Logged told (Except ε α)) :
    Logged told (Except ε' α) :=
  ⟨logged.value.mapError image, logged.events⟩

@[simp] theorem events_mapError {ε' : Type} (image : ε → ε')
    (logged : Logged told (Except ε α)) :
    (logged.mapError image).events = logged.events := rfl

/-- A result with the records of the events on the way to it. -/
def recorded (logged : Logged Event α) : Logged Record α :=
  ⟨logged.value, logged.events.map Event.record⟩

@[simp] theorem value_recorded (logged : Logged Event α) :
    logged.recorded.value = logged.value := rfl

end Logged

end DeviceFlags
