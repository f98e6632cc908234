import DeviceFlags.Proofs.Host.StepLog

/-!
# What a run reports

A run reports what its steps report, one after another.  So its report tells how
many types were registered and how many modules are loaded, and which flags those
have that take all of them from rules.
-/

namespace DeviceFlags.Host

variable {host : Host} {step : HostStep}

/-- What a run reports. -/
def log (host : Host) (steps : List HostStep) : List Record :=
  (host.run steps).events.map Event.record

theorem log_cons (host : Host) (step : HostStep) (rest : List HostStep) :
    host.log (step :: rest) = host.stepLog step ++ (host.next step).log rest :=
  List.map_append

theorem log_append (host : Host) (first second : List HostStep) :
    host.log (first ++ second) = host.log first ++ (host.after first).log second := by
  induction first generalizing host with
  | nil => rfl
  | cons step rest ih =>
      rw [List.cons_append, log_cons, log_cons, ih, List.append_assoc]
      rfl

/-- What the steps of a run report, one after another. -/
inductive Trace : Host → List HostStep → List Record → Prop where
  | nil {host : Host} : Trace host [] []
  | cons {host : Host} {step : HostStep} {rest : List HostStep} {said later : List Record}
      (first : Reports host step said) (others : Trace (host.next step) rest later) :
      Trace host (step :: rest) (said ++ later)

theorem trace_log (host : Host) (steps : List HostStep) : Trace host steps (host.log steps) := by
  induction steps generalizing host with
  | nil => exact .nil
  | cons step rest ih =>
      rw [log_cons]
      exact .cons (reports_stepLog host step) (ih (host.next step))

/-- A run has one trace, which is its log. -/
theorem trace_iff {steps : List HostStep} {records : List Record} :
    Trace host steps records ↔ records = host.log steps := by
  constructor
  · intro trace
    induction trace with
    | nil => rfl
    | cons first others ih => rw [log_cons, ih, first.eq (reports_stepLog _ _)]
  · intro same
    rw [same]
    exact trace_log host steps

/-- A load has one record that is not of a hook. -/
theorem countP_message_ofLoad {message : String} (notAsked : message ≠ "DeviceName")
    (notMatched : message ≠ "rule matched") (device : String) (target : Module) :
    (Record.ofLoad device target).countP (·.message = message) =
      if message = "module loaded" then 1 else 0 := by
  have hooks : (target.hooks.flatMap (Record.ofHook device)).countP (·.message = message) = 0 := by
    rw [List.countP_eq_zero]
    intro record member
    rcases List.mem_flatMap.1 member with ⟨hook, -, among⟩
    cases Record.message_of_mem_ofHook among with
    | inl asked => simp [asked, notAsked.symm]
    | inr matched => simp [matched, notMatched.symm]
  rw [Record.ofLoad, List.countP_append, hooks, List.countP_singleton, Nat.zero_add]
  simp [Record.moduleLoaded, eq_comm]

/-! ## The modules that are loaded -/

/-- Unless it loads a module, a step leaves the number of loaded modules as it
is: the modules that it makes are not loaded. -/
theorem countP_loaded_of_noLoad (contract : host.KeepsContract)
    (noLoad : ∀ number, step.loadFor? number = none) :
    (host.next step).modules.countP (·.loaded) = host.modules.countP (·.loaded) := by
  have same : (host.next step).modules.map (·.loaded) =
      (host.modules ++ (host.made? step).toList).map (·.loaded) := by
    apply List.ext_getElem?
    intro number
    simp only [modules_next, List.getElem?_map, List.getElem?_mapIdx, Option.map_map,
      Function.comp_def, Module.loaded_respond_of_noLoad (noLoad number)]
  have count (modules : List Module) :
      modules.countP (·.loaded) = (modules.map (·.loaded)).count true := by
    rw [List.count_eq_countP, List.countP_map]
    apply List.countP_congr
    simp
  have new : (host.made? step).toList.countP (·.loaded) = 0 := by
    cases makes : host.made? step with
    | none => rfl
    | some made => simp [(isFresh_of_made contract makes).unloaded]
  rw [count, same, ← count, List.countP_append, new, Nat.add_zero]

theorem countP_stepLog_moduleLoaded (contract : host.KeepsContract) (step : HostStep) :
    (host.stepLog step).countP (·.message = "module loaded") + host.modules.countP (·.loaded) =
      (host.next step).modules.countP (·.loaded) := by
  generalize records : host.stepLog step = said
  have reports := reports_stepLog host step
  rw [records] at reports
  cases reports with
  | registered named accepted =>
      have noLoad (number : Nat) : step.loadFor? number = none := by
        cases step with
        | load other device => cases named
        | _ => rfl
      rw [countP_loaded_of_noLoad contract noLoad]
      simp [Record.registered]
  | loaded same found unloaded accepted changed =>
      rcases List.getElem?_eq_some_iff.1 found with ⟨inBounds, here⟩
      rw [changed, countP_message_ofLoad (by decide) (by decide), List.countP_set inBounds, here,
        unloaded]
      simp [Module.loadPass, Nat.add_comm]
  | refused failed kept =>
      rw [kept, List.countP_nil, Nat.zero_add]
  | other unnamed noLoad =>
      rw [countP_loaded_of_noLoad contract noLoad, List.countP_nil, Nat.zero_add]

theorem countP_log_moduleLoaded (contract : host.KeepsContract) {steps : List HostStep}
    (keeps : ∀ step ∈ steps, step.KeepsContract) :
    (host.log steps).countP (·.message = "module loaded") + host.modules.countP (·.loaded) =
      (host.after steps).modules.countP (·.loaded) := by
  induction steps generalizing host with
  | nil => exact Nat.zero_add _
  | cons step rest ih =>
      rw [List.forall_mem_cons] at keeps
      rw [log_cons, List.countP_append, after_cons, ← ih (contract.next keeps.1) keeps.2,
        ← countP_stepLog_moduleLoaded contract step]
      omega

/-! ## The types that were registered -/

/-- The name under which a step has registered a type, if it was answered without
an error. -/
def registrationDone (step : HostStep) : Except HostError HostAnswer → List String
  | .ok _ => step.registers?.toList
  | .error _ => []

/-- The names under which a run has registered types. -/
def registrations (host : Host) (steps : List HostStep) : List String :=
  (steps.zip (host.answers steps)).flatMap fun (step, answer) => registrationDone step answer

theorem registrations_cons (host : Host) (step : HostStep) (rest : List HostStep) :
    host.registrations (step :: rest) =
      registrationDone step (host.answer step) ++ (host.next step).registrations rest :=
  flatMap_answers_cons _ host step rest

theorem registrationDone_of_isOk {answer : Except HostError HostAnswer}
    (accepted : answer.isOk = true) : registrationDone step answer = step.registers?.toList := by
  cases answer with
  | ok value => rfl
  | error error => cases accepted

theorem countP_stepLog_registered (host : Host) (step : HostStep) :
    (host.stepLog step).countP (·.message = "registered module type") =
      (registrationDone step (host.answer step)).length := by
  generalize records : host.stepLog step = said
  have reports := reports_stepLog host step
  rw [records] at reports
  cases reports with
  | registered named accepted =>
      rw [registrationDone_of_isOk accepted, named]
      simp [Record.registered]
  | loaded same found unloaded accepted changed =>
      rw [countP_message_ofLoad (by decide) (by decide), registrationDone_of_isOk accepted, same]
      rfl
  | refused failed kept =>
      rw [failed]
      rfl
  | other unnamed noLoad =>
      cases host.answer step with
      | ok value =>
          rw [registrationDone, unnamed]
          rfl
      | error error => rfl

theorem countP_log_registered (host : Host) (steps : List HostStep) :
    (host.log steps).countP (·.message = "registered module type") =
      (host.registrations steps).length := by
  induction steps generalizing host with
  | nil => rfl
  | cons step rest ih =>
      rw [log_cons, List.countP_append, ih, countP_stepLog_registered, registrations_cons,
        List.length_append]

/-! ## The load of a module -/

/-- A module that is loaded has been loaded by one of the steps, and has the flags
of the hooks that it had before that step. -/
theorem exists_load {steps : List HostStep} {number : Nat} {target : Module}
    (contract : host.KeepsContract) (keeps : ∀ step ∈ steps, step.KeepsContract)
    (new : host.modules = []) (found : (host.after steps).modules[number]? = some target)
    (loaded : target.loaded = true) :
    ∃ before device later earlier, steps = before ++ .load number device :: later ∧
      (host.after before).modules[number]? = some earlier ∧ earlier.loaded = false ∧
      target.properties.cflags = earlier.hooks.flatMap (·.flagsFor device) := by
  have absent : host.modules.length ≤ number := by
    rw [new]
    exact Nat.zero_le number
  rcases exists_creation absent found with ⟨start, created, rest, made, split, length, makes, same⟩
  have keepsBefore : ∀ step ∈ start, step.KeepsContract := by
    rw [split] at keeps
    exact (List.forall_mem_append.1 keeps).1
  rcases isFresh_of_made (contract.after keepsBefore) makes with ⟨unloaded, empty⟩
  cases attempts : loadAttempts number rest with
  | nil =>
      rw [same, Module.afterSteps_of_settled (.inr attempts), unloaded] at loaded
      cases loaded
  | cons device others =>
      rcases exists_firstAttempt attempts with ⟨before, later, divided, noneBefore⟩
      have flags := (made.afterSteps_of_load unloaded noneBefore device later).2
      rw [← divided, ← same, empty] at flags
      have earlier : made.afterSteps number before =
          { made with hooks := made.hooks ++ hooksAdded number before } :=
        Module.afterSteps_of_settled (.inr noneBefore)
      refine ⟨start ++ created :: before, device, later, made.afterSteps number before, ?split,
        ?found, ?unloaded, ?flags⟩
      case split => rw [split, divided, List.append_assoc, List.cons_append]
      case found =>
        rw [after_append, after_cons, ← length]
        exact getElem?_modules_after (getElem?_modules_next_of_made makes) before
      case unloaded =>
        rw [earlier]
        exact unloaded
      case flags =>
        rw [earlier, flags]
        rfl

/-- What a run reports is what its steps report, one after another, and nothing
else; a load reports what its pass over the hooks finds.  As many registrations
are reported as were accepted.  If the factories do what they are to do, as many
modules are reported as loaded as there are in the end.  A module that is loaded
got its flags from one step then; if all of the hooks that it had before that step
take them from rules, the rules that are reported by it tell exactly these flags. -/
theorem log_faithful (count : Nat) (steps : List HostStep) :
    let start := withRegistries count
    let last := start.after steps
    (∀ records, Trace start steps records ↔ records = start.log steps) ∧
      (∀ device target,
        Record.ofLoad device target = (target.loadPass device).events.map Event.record) ∧
      (start.log steps).countP (·.message = "registered module type") =
        (start.registrations steps).length ∧
      ((∀ step ∈ steps, step.KeepsContract) →
        (start.log steps).countP (·.message = "module loaded") =
            last.modules.countP (·.loaded) ∧
          ∀ number target, last.modules[number]? = some target → target.loaded = true →
            ∃ before device later earlier, steps = before ++ .load number device :: later ∧
              let host := start.after before
              let said := host.stepLog (.load number device)
              start.log steps =
                  start.log before ++ said ++ (host.next (.load number device)).log later ∧
                (host.answer (.load number device)).isOk = true ∧
                Reports host (.load number device) said ∧
                host.modules[number]? = some earlier ∧
                ((∀ hook ∈ earlier.hooks, ∃ table, hook = .rules table) →
                  said.filterMap Record.matchedFlag? = target.properties.cflags)) := by
  intro start last
  have contract : start.KeepsContract := keepsContract_withRegistries count
  refine ⟨fun _ => trace_iff, ?passes, countP_log_registered start steps, ?contract⟩
  case passes =>
    intro device target
    exact (Record.map_record_loadPass device target).symm
  case contract =>
    intro keeps
    refine ⟨countP_log_moduleLoaded contract keeps, ?_⟩
    intro number target found loaded
    rcases exists_load contract keeps rfl found loaded with
      ⟨before, device, later, earlier, split, foundEarlier, unloaded, flags⟩
    rcases stepLog_load_of_unloaded foundEarlier unloaded device with ⟨accepted, records⟩
    refine ⟨before, device, later, earlier, split, ?_⟩
    intro host said
    refine ⟨?log, accepted, reports_stepLog host _, foundEarlier, ?told⟩
    case log => rw [split, log_append, log_cons, List.append_assoc]
    case told =>
      intro ruled
      have told : said = Record.ofLoad device earlier := records
      rw [told, Record.filterMap_matchedFlag_ofLoad ruled, flags]

/-- A module of a registered type is reported once, though it is asked to load
twice. -/
theorem log_faithful_of_registered :
    let steps : List HostStep :=
      [.register 0 "rules" ⟨"unnamed", [.rules ⟨[⟨"board", "-DBOARD"⟩]⟩]⟩, .create 0 "rules" "m",
        .load 0 "board", .load 0 "board"]
    (∀ step ∈ steps, step.KeepsContract) ∧
      ((withRegistries 1).log steps).countP (·.message = "module loaded") = 1 ∧
      ((withRegistries 1).log steps).countP (·.message = "registered module type") = 1 := by
  intro steps
  have keeps : ∀ step ∈ steps, step.KeepsContract := by
    simp only [steps, List.forall_mem_cons, HostStep.keepsContract_register, true_and]
    exact ⟨trivial, trivial, trivial, List.forall_mem_nil _⟩
  rcases log_faithful 1 steps with ⟨-, -, registered, contract⟩
  rcases contract keeps with ⟨loaded, -⟩
  exact ⟨keeps, loaded.trans rfl, registered.trans rfl⟩

/-- A second load of a module is refused and leaves no record. -/
example :
    initial.log [.makeDefaults ⟨[⟨"board", "-DBOARD"⟩]⟩, .load 0 "board", .load 0 "board"] =
      [.deviceAsked "board", .ruleMatched "board" "-DBOARD",
        .moduleLoaded "sys_gps_defaults" 1 1] := by
  decide

end DeviceFlags.Host
