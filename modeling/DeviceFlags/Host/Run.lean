import DeviceFlags.Blueprint
import DeviceFlags.Host.Registry

/-!
# Runs of a build host

A host holds registries and modules, numbered from zero in the order in which
they came to be.  A run is a list of steps, each with an answer.  A step that
fails leaves the host as it was.
-/

namespace DeviceFlags

/-- The registries and modules of a host. -/
structure Host where
  registries : List Registry
  modules : List Module

/-- Why a step fails. -/
inductive HostError where
  | duplicateType (name : String)
  | unknownType (name : String)
  | alreadyLoaded (name : String)
  | noRegistry (number : Nat)
  | noModule (number : Nat)
  deriving DecidableEq, Repr

/-- The description of an error. -/
def HostError.message : HostError → String
  | .duplicateType name => "module type '" ++ name ++ "' is already registered"
  | .unknownType name => "unknown module type '" ++ name ++ "'"
  | .alreadyLoaded name => "module '" ++ name ++ "' has already been loaded"
  | .noRegistry number => "no registry " ++ toString number
  | .noModule number => "no module " ++ toString number

/-- What a host can be asked to do. -/
inductive HostStep where
  /-- Registers a factory in a registry. -/
  | registerFactory (registry : Nat) (name : String) (factory : Factory)
  /-- Adds a registry that knows the defaults type for some rules. -/
  | addDefaultsRegistry (table : RuleTable)
  /-- Adds a copy of a registry. -/
  | clone (registry : Nat)
  /-- Makes a module of a registered type. -/
  | create (registry : Nat) (type name : String)
  /-- Makes a module without hooks. -/
  | newModule (name : String)
  /-- Makes a module of the defaults type without a registry. -/
  | makeDefaults (table : RuleTable)
  /-- Attaches a hook to a module. -/
  | addHook (number : Nat) (hook : Hook)
  /-- Loads a module for a device. -/
  | load (number : Nat) (device : String)
  /-- Asks for the names in a registry. -/
  | names (registry : Nat)
  /-- Asks whether a registry knows a name. -/
  | contains (registry : Nat) (name : String)
  /-- Asks for a description of a registry. -/
  | describeRegistry (registry : Nat)
  /-- Asks for the state of a module. -/
  | state (number : Nat)
  /-- Asks for the properties of a module in the build language. -/
  | blueprint (number : Nat)
  /-- Asks for a description of a module. -/
  | describeModule (number : Nat)

/-- Registers the factory of a type in a registry. -/
def HostStep.register (registry : Nat) (name : String) (type : ModuleType) : HostStep :=
  .registerFactory registry name type.factory

/-- The answer to a step. -/
inductive HostAnswer where
  /-- The names in a registry that exists already. -/
  | names (names : List String)
  /-- The number of a new registry, and the names in it. -/
  | newRegistry (number : Nat) (names : List String)
  /-- The number of a copy of a registry. -/
  | copied (number : Nat)
  | truth (value : Bool)
  | text (text : String)
  /-- The state of a module with its number. -/
  | state (number : Nat) (target : Module)

namespace Host

/-- A host with one empty registry. -/
def initial : Host :=
  ⟨[∅], []⟩

/-- The result of a step that fails. -/
def fail (host : Host) (error : HostError) : Logged Event (Host × Except HostError HostAnswer) :=
  .silent (host, .error error)

/-- The result of a step that changes nothing. -/
def tell (host : Host) (answer : HostAnswer) : Logged Event (Host × Except HostError HostAnswer) :=
  .silent (host, .ok answer)

/-- Adds a registry. -/
def addRegistry (host : Host) (registry : Registry) : Host :=
  { host with registries := host.registries ++ [registry] }

/-- Adds a module and answers its state. -/
def addModule (host : Host) (added : Module) : Logged Event (Host × Except HostError HostAnswer) :=
  .silent
    ({ host with modules := host.modules ++ [added] },
      .ok (.state host.modules.length added))

/-- Replaces a module and answers its state. -/
def setModule (host : Host) (number : Nat) (changed : Module) (events : List Event) :
    Logged Event (Host × Except HostError HostAnswer) :=
  ⟨({ host with modules := host.modules.set number changed }, .ok (.state number changed)),
    events⟩

/-- Goes on with a registry, if there is one of that number. -/
def withRegistry (host : Host) (number : Nat)
    (next : Registry → Logged Event (Host × Except HostError HostAnswer)) :
    Logged Event (Host × Except HostError HostAnswer) :=
  match host.registries[number]? with
  | none => host.fail (.noRegistry number)
  | some registry => next registry

/-- Goes on with a module, if there is one of that number. -/
def withModule (host : Host) (number : Nat)
    (next : Module → Logged Event (Host × Except HostError HostAnswer)) :
    Logged Event (Host × Except HostError HostAnswer) :=
  match host.modules[number]? with
  | none => host.fail (.noModule number)
  | some target => next target

/-- Carries out a step. -/
def step (host : Host) : HostStep → Logged Event (Host × Except HostError HostAnswer)
  | .registerFactory number name factory =>
      host.withRegistry number fun registry =>
        match registry.register? name factory with
        | none => host.fail (.duplicateType name)
        | some changed =>
            ⟨({ host with registries := host.registries.set number changed },
              .ok (.names changed.names)), [.typeRegistered name]⟩
  | .addDefaultsRegistry table =>
      let added : Registry := ⟨[(ModuleType.defaultsName, (ModuleType.defaults table).factory)]⟩
      ⟨(host.addRegistry added, .ok (.newRegistry host.registries.length added.names)),
        [.typeRegistered ModuleType.defaultsName]⟩
  | .clone number =>
      host.withRegistry number fun registry =>
        .silent (host.addRegistry registry, .ok (.copied host.registries.length))
  | .create number type name =>
      host.withRegistry number fun registry =>
        match registry.create? type name with
        | none => host.fail (.unknownType type)
        | some added => host.addModule added
  | .newModule name => host.addModule (.fresh name [])
  | .makeDefaults table => host.addModule (ModuleType.defaults table).make
  | .addHook number hook =>
      host.withModule number fun target => host.setModule number (target.attach hook) []
  | .load number device =>
      host.withModule number fun target =>
        match target.load? device with
        | none => host.fail (.alreadyLoaded target.name)
        | some changed => host.setModule number changed (target.loadEvents device)
  | .names number => host.withRegistry number fun registry => host.tell (.names registry.names)
  | .contains number name =>
      host.withRegistry number fun registry => host.tell (.truth (registry.contains name))
  | .describeRegistry number =>
      host.withRegistry number fun registry => host.tell (.text registry.description)
  | .state number => host.withModule number fun target => host.tell (.state number target)
  | .blueprint number =>
      host.withModule number fun target =>
        host.tell (.text (Blueprint.render target.properties))
  | .describeModule number =>
      host.withModule number fun target => host.tell (.text target.description)

/-- Carries out steps one after another, with an answer to each. -/
def run (host : Host) : List HostStep → Logged Event (Host × List (Except HostError HostAnswer))
  | [] => .silent (host, [])
  | first :: rest =>
      let ⟨(next, answer), events⟩ := host.step first
      let ⟨(last, answers), others⟩ := run next rest
      ⟨(last, answer :: answers), events ++ others⟩

end Host

end DeviceFlags
