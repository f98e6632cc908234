import DeviceFlags.Event
import DeviceFlags.Properties
import DeviceFlags.RuleTable.Basic
import DeviceFlags.Text.Quoted

/-!
# Modules and their hooks

A module starts out without properties.  Hooks can be attached to it, and when
it is loaded for a device each hook adds its flags, in the order in which the
hooks were attached.  A module is loaded once.
-/

namespace DeviceFlags

/-- What a module does when it is loaded. -/
inductive Hook where
  /-- Adds the flags that a rule table has for the device. -/
  | rules (table : RuleTable)
  /-- Adds flags that depend on nothing but the device. -/
  | plain (flagsOf : String → List String)

namespace Hook

/-- The hook that adds fixed flags. -/
def fixed (flags : List String) : Hook :=
  .plain fun _ => flags

/-- The hook that adds one flag: a fixed beginning and the name of the device. -/
def deviceName (beginning : String) : Hook :=
  .plain fun device => [beginning ++ device]

/-- The flags that a hook adds for a device. -/
def flagsFor (device : String) : Hook → List String
  | .rules table => table.resolve device
  | .plain flagsOf => flagsOf device

/-- The events of a hook that runs for a device. -/
def eventsFor (device : String) : Hook → List Event
  | .rules table => .deviceAsked device :: (table.resolve device).map (.ruleMatched device)
  | .plain _ => []

end Hook

/-- A named bag of properties. -/
structure Module where
  name : String
  properties : Properties
  hooks : List Hook
  loaded : Bool

namespace Module

/-- A module that was not loaded yet and has no properties. -/
def fresh (name : String) (hooks : List Hook) : Module :=
  ⟨name, ∅, hooks, false⟩

/-- Attaches a hook behind all others. -/
def attach (target : Module) (hook : Hook) : Module :=
  { target with hooks := target.hooks ++ [hook] }

/-- Loads a module for a device, unless it was loaded before. -/
def load? (target : Module) (device : String) : Option Module :=
  if target.loaded then none
  else
    some { target with
      properties := target.properties ++ ⟨target.hooks.flatMap (·.flagsFor device)⟩
      loaded := true }

/-- The events of loading a module for a device. -/
def loadEvents (target : Module) (device : String) : List Event :=
  target.hooks.flatMap (·.eventsFor device) ++
    [.moduleLoaded target.name target.hooks.length
      (target.properties.cflags.length +
        (target.hooks.flatMap (·.flagsFor device)).length)]

/-- The word for a truth value in descriptions. -/
def truthWord (value : Bool) : String :=
  if value then "true" else "false"

/-- A description of the whole state of a module. -/
def description (target : Module) : String :=
  "DefaultsModule \x7b name: " ++ Text.quoted target.name ++
    ", properties: CcProperties \x7b cflags: " ++ Text.quotedList target.properties.cflags ++
    " \x7d, load_hooks: " ++ toString target.hooks.length ++
    ", loaded: " ++ truthWord target.loaded ++ " \x7d"

end Module

end DeviceFlags
