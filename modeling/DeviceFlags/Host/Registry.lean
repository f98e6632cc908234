import DeviceFlags.Host.Module

/-!
# Registries of module types

A registry knows the factories of module types by name and has them make
modules.  A name is taken by its first registration; later ones are refused.
-/

namespace DeviceFlags

/-- Makes the modules of one type: the same one each time, but nothing forbids
that it has properties already or is loaded. -/
structure Factory where
  made : Module

/-- What the new modules of a type start out with. -/
structure ModuleType where
  initialName : String
  hooks : List Hook

namespace ModuleType

/-- A new module of the type, under the name that the type gives it. -/
def make (type : ModuleType) : Module :=
  .fresh type.initialName type.hooks

/-- The factory of new modules of the type. -/
def factory (type : ModuleType) : Factory :=
  ⟨type.make⟩

/-- The name of the type whose modules resolve the device against rules. -/
def defaultsName : String := "sys_gps_defaults"

/-- The type whose modules take their flags from a rule table. -/
def defaults (table : RuleTable) : ModuleType :=
  ⟨defaultsName, [.rules table]⟩

end ModuleType

/-- The factories of module types by name, in ascending order of the names. -/
structure Registry where
  factories : List (String × Factory)

namespace Registry

instance : EmptyCollection Registry where
  emptyCollection := ⟨[]⟩

/-- The registered names. -/
def names (registry : Registry) : List String :=
  registry.factories.map (·.1)

/-- Whether a name is registered. -/
def contains (registry : Registry) (name : String) : Bool :=
  registry.names.contains name

/-- Puts a name in front of the first one that comes after it. -/
def insert (name : String) (factory : Factory) :
    List (String × Factory) → List (String × Factory)
  | [] => [(name, factory)]
  | (head, headFactory) :: rest =>
      if name < head then (name, factory) :: (head, headFactory) :: rest
      else (head, headFactory) :: insert name factory rest

/-- Registers a factory under a name that is not taken. -/
def register? (registry : Registry) (name : String) (factory : Factory) : Option Registry :=
  if registry.contains name then none else some ⟨insert name factory registry.factories⟩

/-- Has a module of a registered type made and names it. -/
def create? (registry : Registry) (type name : String) : Option Module :=
  (registry.factories.lookup type).map fun factory => { factory.made with name }

/-- A description of a registry: its names. -/
def description (registry : Registry) : String :=
  Text.quotedList registry.names

end Registry

end DeviceFlags
