import DeviceFlags.Proofs.Host.Run

/-!
# The modules of a host, one by one

A step does to a module what the module's own number in the step says, whatever
else the host holds.  So a run acts on each module by itself, from the step on
that makes it.
-/

namespace DeviceFlags

namespace HostStep

/-- The hook that a step attaches to a module. -/
def hookFor? (number : Nat) : HostStep → Option Hook
  | .addHook other hook => if other = number then some hook else none
  | _ => none

/-- The device for which a step is to load a module. -/
def loadFor? (number : Nat) : HostStep → Option String
  | .load other device => if other = number then some device else none
  | _ => none

theorem hookFor?_eq_some_iff {number : Nat} {step : HostStep} {hook : Hook} :
    step.hookFor? number = some hook ↔ step = .addHook number hook := by
  constructor
  · intro attached
    cases step <;> simp_all [hookFor?]
  · intro same
    subst same
    exact if_pos rfl

theorem loadFor?_eq_some_iff {number : Nat} {step : HostStep} {device : String} :
    step.loadFor? number = some device ↔ step = .load number device := by
  constructor
  · intro loads
    cases step <;> simp_all [loadFor?]
  · intro same
    subst same
    exact if_pos rfl

end HostStep

namespace Module

/-- What a step does to the module of a number. -/
def respond (number : Nat) (target : Module) (step : HostStep) : Module :=
  match step.hookFor? number with
  | some hook => target.attach hook
  | none =>
      match step.loadFor? number with
      | some device => (target.load? device).getD target
      | none => target

variable {number : Nat} {target : Module} {step : HostStep}

theorem respond_of_hook {hook : Hook} (attached : step.hookFor? number = some hook) :
    target.respond number step = target.attach hook := by
  rw [respond, attached]

theorem respond_of_load {device : String} (loads : step.loadFor? number = some device) :
    target.respond number step = (target.load? device).getD target := by
  rw [HostStep.loadFor?_eq_some_iff] at loads
  subst loads
  simp only [respond, HostStep.hookFor?, HostStep.loadFor?, if_pos]

theorem respond_of_none (noHook : step.hookFor? number = none)
    (noLoad : step.loadFor? number = none) : target.respond number step = target := by
  simp only [respond, noHook, noLoad]

theorem load?_of_loaded (loaded : target.loaded = true) (device : String) :
    target.load? device = none :=
  if_pos loaded

theorem load?_of_unloaded (unloaded : target.loaded = false) (device : String) :
    target.load? device = some { target with
      properties := target.properties ++ ⟨target.hooks.flatMap (·.flagsFor device)⟩
      loaded := true } := by
  rw [load?, unloaded]
  rfl

end Module

namespace Host

/-- The module that a step makes. -/
def made? (host : Host) : HostStep → Option Module
  | .create number type name => host.registries[number]?.bind (·.create? type name)
  | .newModule name => some (.fresh name [])
  | .makeDefaults table => some (ModuleType.defaults table).make
  | _ => none

variable {host : Host} {number : Nat}

theorem map_respond_of_elsewhere {step : HostStep}
    (elsewhere : step.hookFor? number = none ∧ step.loadFor? number = none)
    (target? : Option Module) : target?.map (·.respond number step) = target? := by
  cases target? with
  | none => rfl
  | some target => exact congrArg some (Module.respond_of_none elsewhere.1 elsewhere.2)

/-- A step that is not about a module leaves all modules as they are, and puts
the one that it makes behind them. -/
theorem getElem?_modules_of_grown {step : HostStep}
    (grown : (host.next step).modules = host.modules ++ (host.made? step).toList)
    (elsewhere : ∀ number, step.hookFor? number = none ∧ step.loadFor? number = none) :
    (host.next step).modules[number]? =
      (host.modules ++ (host.made? step).toList)[number]?.map (·.respond number step) := by
  rw [grown, map_respond_of_elsewhere (elsewhere number)]

theorem getElem?_modules_of_kept {step : HostStep}
    (kept : (host.next step).modules = host.modules) (noneMade : host.made? step = none)
    (elsewhere : ∀ number, step.hookFor? number = none ∧ step.loadFor? number = none) :
    (host.next step).modules[number]? =
      (host.modules ++ (host.made? step).toList)[number]?.map (·.respond number step) := by
  apply getElem?_modules_of_grown _ elsewhere
  rw [kept, noneMade, Option.toList_none, List.append_nil]

/-- A step about one module changes no other. -/
theorem getElem?_modules_of_addressed {step : HostStep} {other : Nat}
    {change : Module → Logged Event (Host × Except HostError HostAnswer)}
    (same : host.step step = host.withModule other change) (noneMade : host.made? step = none)
    (elsewhere : ∀ number, number ≠ other →
      step.hookFor? number = none ∧ step.loadFor? number = none)
    (changed : ∀ target, host.modules[other]? = some target →
      (change target).value.1.modules = host.modules.set other (target.respond other step)) :
    (host.next step).modules[number]? =
      (host.modules ++ (host.made? step).toList)[number]?.map (·.respond number step) := by
  rw [noneMade, Option.toList_none, List.append_nil, next, same, withModule]
  by_cases equal : number = other
  · subst equal
    cases found : host.modules[number]? with
    | none => exact found
    | some target =>
        have inBounds := (List.getElem?_eq_some_iff.1 found).1
        rw [changed target found, List.getElem?_set_self inBounds]
        rfl
  · rw [map_respond_of_elsewhere (elsewhere number equal)]
    cases found : host.modules[other]? with
    | none => rfl
    | some target => rw [changed target found, List.getElem?_set_ne (Ne.symm equal)]

/-- What a step does to the module of a number, be it there already or made by
the step. -/
theorem getElem?_modules_next (host : Host) (step : HostStep) (number : Nat) :
    (host.next step).modules[number]? =
      (host.modules ++ (host.made? step).toList)[number]?.map (·.respond number step) := by
  cases step with
  | registerFactory other name factory =>
      apply getElem?_modules_of_kept _ rfl fun _ => ⟨rfl, rfl⟩
      apply withRegistry_keeps modules
      intro registry
      cases registry.register? name factory <;> rfl
  | addDefaultsRegistry table => exact getElem?_modules_of_kept rfl rfl fun _ => ⟨rfl, rfl⟩
  | clone other =>
      exact getElem?_modules_of_kept (withRegistry_keeps modules fun _ => rfl) rfl
        fun _ => ⟨rfl, rfl⟩
  | create other type name =>
      apply getElem?_modules_of_grown _ fun _ => ⟨rfl, rfl⟩
      simp only [next, step, withRegistry, made?]
      cases host.registries[other]? with
      | none => exact (List.append_nil _).symm
      | some registry =>
          cases created : registry.create? type name with
          | none => simp [fail, Logged.silent, created]
          | some made => simp [addModule, Logged.silent, created]
  | newModule name => exact getElem?_modules_of_grown rfl fun _ => ⟨rfl, rfl⟩
  | makeDefaults table => exact getElem?_modules_of_grown rfl fun _ => ⟨rfl, rfl⟩
  | addHook other hook =>
      refine getElem?_modules_of_addressed rfl rfl ?_ ?_
      · intro number ne
        exact ⟨if_neg (Ne.symm ne), rfl⟩
      · intro target _
        rw [Module.respond_of_hook (HostStep.hookFor?_eq_some_iff.2 rfl)]
        rfl
  | load other device =>
      refine getElem?_modules_of_addressed rfl rfl ?_ ?_
      · intro number ne
        exact ⟨rfl, if_neg (Ne.symm ne)⟩
      · intro target found
        rw [Module.respond_of_load (HostStep.loadFor?_eq_some_iff.2 rfl)]
        cases target.load? device with
        | none =>
            rcases List.getElem?_eq_some_iff.1 found with ⟨inBounds, rfl⟩
            exact (List.set_getElem_self inBounds).symm
        | some changed => rfl
  | names other =>
      exact getElem?_modules_of_kept (withRegistry_keeps modules fun _ => rfl) rfl
        fun _ => ⟨rfl, rfl⟩
  | contains other name =>
      exact getElem?_modules_of_kept (withRegistry_keeps modules fun _ => rfl) rfl
        fun _ => ⟨rfl, rfl⟩
  | describeRegistry other =>
      exact getElem?_modules_of_kept (withRegistry_keeps modules fun _ => rfl) rfl
        fun _ => ⟨rfl, rfl⟩
  | state other =>
      exact getElem?_modules_of_kept (withModule_keeps modules fun _ => rfl) rfl
        fun _ => ⟨rfl, rfl⟩
  | blueprint other =>
      exact getElem?_modules_of_kept (withModule_keeps modules fun _ => rfl) rfl
        fun _ => ⟨rfl, rfl⟩
  | describeModule other =>
      exact getElem?_modules_of_kept (withModule_keeps modules fun _ => rfl) rfl
        fun _ => ⟨rfl, rfl⟩

end Host

end DeviceFlags
