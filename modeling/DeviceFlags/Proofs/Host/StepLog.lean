import DeviceFlags.Proofs.Event
import DeviceFlags.Proofs.Host.Lineage
import DeviceFlags.Proofs.Host.Life
import DeviceFlags.Proofs.Host.Loading

/-!
# What a step reports

A registration that is accepted is reported, and so is a load that succeeds,
with all that its hooks find.  A step that fails reports nothing, and no other
step does.
-/

namespace DeviceFlags

/-- The name under which a step registers a type. -/
def HostStep.registers? : HostStep → Option String
  | .registerFactory _ name _ => some name
  | .addDefaultsRegistry _ => some ModuleType.defaultsName
  | _ => none

namespace Record

/-- The record of a type that was registered. -/
def registered (name : String) : Record where
  level := .debug
  message := "registered module type"
  details := [("module_type", name)]

/-- The record of a module that was loaded, by so many hooks, and has so many
flags. -/
def moduleLoaded (name : String) (hooks cflags : Nat) : Record where
  level := .debug
  message := "module loaded"
  details := [("module", name), ("hooks", toString hooks), ("cflags", toString cflags)]

/-- The record of a module that asks for the flags of a device. -/
def deviceAsked (device : String) : Record where
  level := .debug
  message := "DeviceName"
  details := [("device", device)]

/-- The record of a rule that gave its flag to a device. -/
def ruleMatched (device flag : String) : Record where
  level := .trace
  message := "rule matched"
  details := [("device", device), ("flag", flag)]

/-- The records of a hook that runs for a device. -/
def ofHook (device : String) : Hook → List Record
  | .rules table => deviceAsked device :: (table.resolve device).map (ruleMatched device)
  | .plain _ => []

/-- The records of a module that is loaded for a device: those of its hooks, and
then its own, with the flags that it has then. -/
def ofLoad (device : String) (target : Module) : List Record :=
  target.hooks.flatMap (ofHook device) ++
    [moduleLoaded target.name target.hooks.length
      (target.loadPass device).value.properties.cflags.length]

/-- The flag that a record of a matching rule tells. -/
def matchedFlag? (record : Record) : Option String :=
  if record.message = "rule matched" then record.details.lookup "flag" else none

theorem map_record_eventsFor (device : String) (hook : Hook) :
    (hook.eventsFor device).map Event.record = ofHook device hook := by
  cases hook with
  | rules table =>
      simp only [Hook.eventsFor, List.map_cons, List.map_map]
      rfl
  | plain flagsOf => rfl

theorem message_of_mem_ofHook {device : String} {hook : Hook} {record : Record}
    (member : record ∈ ofHook device hook) :
    record.message = "DeviceName" ∨ record.message = "rule matched" := by
  cases hook with
  | rules table =>
      simp only [ofHook, List.mem_cons, List.mem_map] at member
      cases member with
      | inl asked => exact .inl (congrArg message asked)
      | inr matched =>
          rcases matched with ⟨flag, -, same⟩
          exact .inr (congrArg message same.symm)
  | plain flagsOf => cases member

@[simp] theorem matchedFlag_deviceAsked (device : String) :
    matchedFlag? (deviceAsked device) = none := rfl

@[simp] theorem matchedFlag_ruleMatched (device flag : String) :
    matchedFlag? (ruleMatched device flag) = some flag := by
  simp [matchedFlag?, ruleMatched, List.lookup_cons]

/-- If all hooks have rules, the flags that are told while they run are their
flags. -/
theorem filterMap_matchedFlag_hooks {device : String} {hooks : List Hook}
    (ruled : ∀ hook ∈ hooks, ∃ table, hook = .rules table) :
    (hooks.flatMap (ofHook device)).filterMap matchedFlag? =
      hooks.flatMap (·.flagsFor device) := by
  induction hooks with
  | nil => rfl
  | cons hook rest ih =>
      rw [List.forall_mem_cons] at ruled
      rcases ruled.1 with ⟨table, same⟩
      subst same
      have told : (ofHook device (.rules table)).filterMap matchedFlag? = table.resolve device := by
        rw [ofHook, List.filterMap_cons_none (matchedFlag_deviceAsked device)]
        simp [List.filterMap_map]
      rw [List.flatMap_cons, List.flatMap_cons, List.filterMap_append, told, ih ruled.2]
      rfl

theorem filterMap_matchedFlag_ofLoad {device : String} {target : Module}
    (ruled : ∀ hook ∈ target.hooks, ∃ table, hook = .rules table) :
    (ofLoad device target).filterMap matchedFlag? =
      target.hooks.flatMap (·.flagsFor device) := by
  rw [ofLoad, List.filterMap_append, filterMap_matchedFlag_hooks ruled]
  exact List.append_nil _

/-- What the pass that loads a module reports on its way, told from the hooks. -/
theorem map_record_loadPass (device : String) (target : Module) :
    (target.loadPass device).events.map Event.record = ofLoad device target := by
  rw [Module.events_loadPass, Module.loadEvents, List.map_append, List.map_flatMap, ofLoad,
    Module.cflags_loadPass, List.length_append]
  simp only [map_record_eventsFor]
  rfl

end Record

namespace Host

variable {host : Host} {step : HostStep}

/-- What a step reports. -/
def stepLog (host : Host) (step : HostStep) : List Record :=
  (host.step step).events.map Event.record

/-- What a step is to report: a registration or a load that succeeds what belongs
to it, and all else nothing. -/
inductive Reports (host : Host) (step : HostStep) : List Record → Prop where
  | registered {name : String} (named : step.registers? = some name)
      (accepted : (host.answer step).isOk = true) : Reports host step [.registered name]
  | loaded {number : Nat} {device : String} {target : Module}
      (same : step = .load number device) (found : host.modules[number]? = some target)
      (unloaded : target.loaded = false) (accepted : (host.answer step).isOk = true)
      (changed : (host.next step).modules =
        host.modules.set number (target.loadPass device).value) :
      Reports host step (Record.ofLoad device target)
  | refused {error : HostError} (failed : host.answer step = .error error)
      (kept : host.next step = host) : Reports host step []
  | other (unnamed : step.registers? = none) (noLoad : ∀ number, step.loadFor? number = none) :
      Reports host step []

theorem answer_ne_error_of_isOk (accepted : (host.answer step).isOk = true) (error : HostError) :
    host.answer step ≠ .error error := by
  intro failed
  rw [failed] at accepted
  cases accepted

/-- There is one thing to report. -/
theorem Reports.eq {records others : List Record} (first : Reports host step records)
    (second : Reports host step others) : records = others := by
  cases first with
  | registered named accepted =>
      cases second with
      | registered named' _ => rw [Option.some.inj (named.symm.trans named')]
      | loaded same _ _ _ _ =>
          subst same
          cases named
      | refused failed _ => exact absurd failed (answer_ne_error_of_isOk accepted _)
      | other unnamed _ => cases unnamed.symm.trans named
  | loaded same found _ accepted _ =>
      subst same
      cases second with
      | registered named _ => cases named
      | loaded same' found' _ _ _ =>
          cases same'
          rw [Option.some.inj (found.symm.trans found')]
      | refused failed _ => exact absurd failed (answer_ne_error_of_isOk accepted _)
      | other _ noLoad => cases (HostStep.loadFor?_eq_some_iff.2 rfl).symm.trans (noLoad _)
  | refused failed _ =>
      cases second with
      | registered _ accepted => exact absurd failed (answer_ne_error_of_isOk accepted _)
      | loaded _ _ _ accepted _ => exact absurd failed (answer_ne_error_of_isOk accepted _)
      | refused _ _ => rfl
      | other _ _ => rfl
  | other unnamed noLoad =>
      cases second with
      | registered named _ => cases unnamed.symm.trans named
      | loaded same _ _ _ _ =>
          subst same
          cases (HostStep.loadFor?_eq_some_iff.2 rfl).symm.trans (noLoad _)
      | refused _ _ => rfl
      | other _ _ => rfl

theorem reports_of_fail {error : HostError} (failed : host.step step = host.fail error) :
    Reports host step (host.stepLog step) := by
  rw [stepLog, failed]
  exact .refused (congrArg (·.value.2) failed) (congrArg (·.value.1) failed)

theorem reports_register (host : Host) (number : Nat) (name : String) (factory : Factory) :
    Reports host (.registerFactory number name factory)
      (host.stepLog (.registerFactory number name factory)) := by
  cases found : host.registries[number]? with
  | none =>
      apply reports_of_fail
      simp only [Host.step, withRegistry, found]
      rfl
  | some registry =>
      by_cases taken : name ∈ registry.names
      · exact reports_of_fail (register_fails_of_mem found taken factory)
      · have events : (host.step (.registerFactory number name factory)).events =
            [.typeRegistered name] := by
          simp only [Host.step, withRegistry, found, Registry.register?_of_notMem taken]
        rw [stepLog, events]
        exact .registered rfl ((isOk_answer_register_iff found name factory).2 taken)

theorem step_load_of_unloaded {number : Nat} {target : Module}
    (found : host.modules[number]? = some target) (unloaded : target.loaded = false)
    (device : String) :
    host.step (.load number device) =
      host.setModule number (target.loadPass device).value (target.loadPass device).events := by
  simp only [Host.step, withModule, found, Module.load?_eq_loadPass unloaded,
    Module.events_loadPass]

/-- What a load reports that succeeds, and that it does. -/
theorem stepLog_load_of_unloaded {number : Nat} {target : Module}
    (found : host.modules[number]? = some target) (unloaded : target.loaded = false)
    (device : String) :
    (host.answer (.load number device)).isOk = true ∧
      host.stepLog (.load number device) = Record.ofLoad device target := by
  have succeeded := step_load_of_unloaded found unloaded device
  constructor
  · rw [answer, succeeded]
    rfl
  · rw [stepLog, succeeded]
    exact Record.map_record_loadPass device target

theorem reports_load (host : Host) (number : Nat) (device : String) :
    Reports host (.load number device) (host.stepLog (.load number device)) := by
  cases found : host.modules[number]? with
  | none => exact reports_of_fail (load_fails_of_absent found device)
  | some target =>
      cases loaded : target.loaded with
      | true => exact reports_of_fail (load_fails_of_loaded found loaded device)
      | false =>
          have succeeded := step_load_of_unloaded found loaded device
          rcases stepLog_load_of_unloaded found loaded device with ⟨accepted, records⟩
          rw [records]
          exact .loaded rfl found loaded accepted (congrArg (·.value.1.modules) succeeded)

/-- A step reports what it is to report. -/
theorem reports_stepLog (host : Host) (step : HostStep) :
    Reports host step (host.stepLog step) := by
  have quiet (silent : (host.step step).events = []) (unnamed : step.registers? = none)
      (noLoad : ∀ number, step.loadFor? number = none) :
      Reports host step (host.stepLog step) := by
    rw [stepLog, silent]
    exact .other unnamed noLoad
  cases step with
  | registerFactory number name factory => exact reports_register host number name factory
  | addDefaultsRegistry table => exact .registered rfl rfl
  | load number device => exact reports_load host number device
  | create number type name =>
      apply quiet _ rfl fun _ => rfl
      apply withRegistry_silent
      intro registry
      cases registry.create? type name <;> rfl
  | newModule name => exact quiet rfl rfl fun _ => rfl
  | makeDefaults table => exact quiet rfl rfl fun _ => rfl
  | clone number => exact quiet (withRegistry_silent fun _ => rfl) rfl fun _ => rfl
  | names number => exact quiet (withRegistry_silent fun _ => rfl) rfl fun _ => rfl
  | contains number name => exact quiet (withRegistry_silent fun _ => rfl) rfl fun _ => rfl
  | describeRegistry number => exact quiet (withRegistry_silent fun _ => rfl) rfl fun _ => rfl
  | addHook number hook => exact quiet (withModule_silent fun _ => rfl) rfl fun _ => rfl
  | state number => exact quiet (withModule_silent fun _ => rfl) rfl fun _ => rfl
  | blueprint number => exact quiet (withModule_silent fun _ => rfl) rfl fun _ => rfl
  | describeModule number => exact quiet (withModule_silent fun _ => rfl) rfl fun _ => rfl

end Host

end DeviceFlags
