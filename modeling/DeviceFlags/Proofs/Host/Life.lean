import DeviceFlags.Proofs.Host.Lineage
import DeviceFlags.Proofs.Host.Modules

/-!
# The life of a module

A module is made by one step of a run, and from then on only the steps about it
matter.  The first attempt to load it succeeds and gives it the flags of the
hooks that it has at that moment.  All later attempts fail, and hooks that come
later add nothing.
-/

namespace DeviceFlags

/-- The hooks that some steps attach to a module. -/
def hooksAdded (number : Nat) (steps : List HostStep) : List Hook :=
  steps.flatMap fun step => (step.hookFor? number).toList

/-- The devices for which some steps are to load a module. -/
def loadAttempts (number : Nat) (steps : List HostStep) : List String :=
  steps.flatMap fun step => (step.loadFor? number).toList

theorem hooksAdded_cons (number : Nat) (step : HostStep) (rest : List HostStep) :
    hooksAdded number (step :: rest) =
      (step.hookFor? number).toList ++ hooksAdded number rest := rfl

theorem loadAttempts_cons (number : Nat) (step : HostStep) (rest : List HostStep) :
    loadAttempts number (step :: rest) =
      (step.loadFor? number).toList ++ loadAttempts number rest := rfl

/-- The first attempt to load a module divides a run in two. -/
theorem exists_firstAttempt {number : Nat} {steps : List HostStep} {device : String}
    {others : List String} (attempts : loadAttempts number steps = device :: others) :
    ∃ before later, steps = before ++ .load number device :: later ∧
      loadAttempts number before = [] := by
  induction steps with
  | nil => cases attempts
  | cons step rest ih =>
      rw [loadAttempts_cons] at attempts
      cases load : step.loadFor? number with
      | none =>
          rw [load] at attempts
          rcases ih attempts with ⟨before, later, split, none⟩
          refine ⟨step :: before, later, congrArg (step :: ·) split, ?_⟩
          rw [loadAttempts_cons, load, none, Option.toList_none, List.append_nil]
      | some first =>
          rw [load] at attempts
          cases attempts
          rw [HostStep.loadFor?_eq_some_iff] at load
          subst load
          exact ⟨[], rest, rfl, rfl⟩

namespace Module

variable {number : Nat} {target : Module} {step : HostStep}

@[simp] theorem name_respond (number : Nat) (target : Module) (step : HostStep) :
    (target.respond number step).name = target.name := by
  cases hook : step.hookFor? number with
  | some added =>
      rw [respond_of_hook hook]
      rfl
  | none =>
      cases load : step.loadFor? number with
      | none => rw [respond_of_none hook load]
      | some device =>
          rw [respond_of_load load]
          cases loaded : target.loaded with
          | true => rw [load?_of_loaded loaded, Option.getD_none]
          | false => rw [load?_of_unloaded loaded, Option.getD_some]

theorem loaded_respond_of_noLoad (noLoad : step.loadFor? number = none) :
    (target.respond number step).loaded = target.loaded := by
  cases hook : step.hookFor? number with
  | some added =>
      rw [respond_of_hook hook]
      rfl
  | none => rw [respond_of_none hook noLoad]

theorem respond_of_elsewhere (noHook : ∀ hook, step ≠ .addHook number hook)
    (noLoad : ∀ device, step ≠ .load number device) : target.respond number step = target := by
  apply respond_of_none
  · rw [Option.eq_none_iff_forall_ne_some]
    intro hook attached
    exact noHook hook (HostStep.hookFor?_eq_some_iff.1 attached)
  · rw [Option.eq_none_iff_forall_ne_some]
    intro device loads
    exact noLoad device (HostStep.loadFor?_eq_some_iff.1 loads)

/-- A module after some steps. -/
def afterSteps (number : Nat) (target : Module) (steps : List HostStep) : Module :=
  steps.foldl (respond number) target

theorem afterSteps_cons (number : Nat) (target : Module) (step : HostStep)
    (rest : List HostStep) :
    target.afterSteps number (step :: rest) =
      (target.respond number step).afterSteps number rest := rfl

theorem afterSteps_append (number : Nat) (target : Module) (first second : List HostStep) :
    target.afterSteps number (first ++ second) =
      (target.afterSteps number first).afterSteps number second :=
  List.foldl_append

theorem name_afterSteps (number : Nat) (target : Module) (steps : List HostStep) :
    (target.afterSteps number steps).name = target.name := by
  induction steps generalizing target with
  | nil => rfl
  | cons step rest ih => exact (ih _).trans (name_respond number target step)

/-- Hooks are all that a module gains once it is loaded, or as long as no step
loads it. -/
theorem afterSteps_of_settled {steps : List HostStep}
    (settled : target.loaded = true ∨ loadAttempts number steps = []) :
    target.afterSteps number steps =
      { target with hooks := target.hooks ++ hooksAdded number steps } := by
  induction steps generalizing target with
  | nil =>
      cases target
      simp only [afterSteps, hooksAdded, List.foldl_nil, List.flatMap_nil, List.append_nil]
  | cons step rest ih =>
      rw [loadAttempts_cons, List.append_eq_nil_iff] at settled
      have later : target.loaded = true ∨ loadAttempts number rest = [] :=
        settled.imp_right And.right
      rw [afterSteps_cons, hooksAdded_cons]
      cases hook : step.hookFor? number with
      | some added =>
          rw [respond_of_hook hook, @ih (target.attach added) later, attach,
            List.append_assoc]
          rfl
      | none =>
          have same : target.respond number step = target := by
            cases load : step.loadFor? number with
            | none => exact respond_of_none hook load
            | some device =>
                rw [load] at settled
                have loaded := settled.resolve_right fun none => nomatch none.1
                rw [respond_of_load load, load?_of_loaded loaded, Option.getD_none]
          rw [same, ih later]
          rfl

/-- A module that is loaded once has the flags of the hooks that it had then. -/
theorem afterSteps_of_load {before : List HostStep} (unloaded : target.loaded = false)
    (noneBefore : loadAttempts number before = []) (device : String) (later : List HostStep) :
    (target.afterSteps number (before ++ .load number device :: later)).loaded = true ∧
      (target.afterSteps number (before ++ .load number device :: later)).properties =
        target.properties ++
          ⟨(target.hooks ++ hooksAdded number before).flatMap (·.flagsFor device)⟩ := by
  have settled : target.afterSteps number before =
      { target with hooks := target.hooks ++ hooksAdded number before } :=
    afterSteps_of_settled (.inr noneBefore)
  have stillUnloaded : (target.afterSteps number before).loaded = false := by
    rw [settled]
    exact unloaded
  rw [afterSteps_append, afterSteps_cons, respond_of_load (HostStep.loadFor?_eq_some_iff.2 rfl),
    load?_of_unloaded stillUnloaded, Option.getD_some, afterSteps_of_settled (.inl rfl), settled]
  exact ⟨rfl, rfl⟩

/-- A new module stays without flags until the first attempt to load it, which
decides them for good. -/
theorem afterSteps_life (target : Module) (number : Nat) (unloaded : target.loaded = false)
    (steps : List HostStep) :
    (loadAttempts number steps = [] ∧ (target.afterSteps number steps).loaded = false ∧
        (target.afterSteps number steps).properties = target.properties) ∨
      ∃ before device later, steps = before ++ .load number device :: later ∧
        loadAttempts number before = [] ∧
        (loadAttempts number steps).take 1 = [device] ∧
        (target.afterSteps number steps).loaded = true ∧
        (target.afterSteps number steps).properties =
          target.properties ++
            ⟨(target.hooks ++ hooksAdded number before).flatMap (·.flagsFor device)⟩ := by
  cases attempts : loadAttempts number steps with
  | nil =>
      left
      rw [afterSteps_of_settled (.inr attempts)]
      exact ⟨rfl, unloaded, rfl⟩
  | cons device others =>
      right
      rcases exists_firstAttempt attempts with ⟨before, later, split, noneBefore⟩
      have loads := afterSteps_of_load unloaded noneBefore device later
      rw [← split] at loads
      exact ⟨before, device, later, split, noneBefore, rfl, loads⟩

end Module

namespace Host

variable {host : Host} {number : Nat} {target : Module}

theorem getElem?_modules_next_of_some (found : host.modules[number]? = some target)
    (step : HostStep) :
    (host.next step).modules[number]? = some (target.respond number step) := by
  have inBounds := (List.getElem?_eq_some_iff.1 found).1
  rw [getElem?_modules_next, List.getElem?_append_left inBounds, found]
  rfl

/-- A run acts on each module by itself. -/
theorem getElem?_modules_after (found : host.modules[number]? = some target)
    (steps : List HostStep) :
    (host.after steps).modules[number]? = some (target.afterSteps number steps) := by
  induction steps generalizing host target with
  | nil => exact found
  | cons step rest ih => exact ih (getElem?_modules_next_of_some found step)

/-- A step that makes a module is about no other. -/
theorem elsewhere_of_made {step : HostStep} {made : Module} (makes : host.made? step = some made)
    (number : Nat) : step.hookFor? number = none ∧ step.loadFor? number = none := by
  cases step with
  | create other type name => exact ⟨rfl, rfl⟩
  | newModule name => exact ⟨rfl, rfl⟩
  | makeDefaults table => exact ⟨rfl, rfl⟩
  | _ => cases makes

theorem getElem?_modules_next_of_made {step : HostStep} {made : Module}
    (makes : host.made? step = some made) :
    (host.next step).modules[host.modules.length]? = some made := by
  rw [getElem?_modules_next, makes, Option.toList_some, List.getElem?_concat_length]
  exact map_respond_of_elsewhere (elsewhere_of_made makes _) (some made)

theorem modules_next (host : Host) (step : HostStep) :
    (host.next step).modules =
      (host.modules ++ (host.made? step).toList).mapIdx
        fun number target => target.respond number step := by
  apply List.ext_getElem?
  intro number
  rw [getElem?_modules_next, List.getElem?_mapIdx]

theorem length_modules_next (host : Host) (step : HostStep) :
    (host.next step).modules.length =
      host.modules.length + (host.made? step).toList.length := by
  rw [modules_next, List.length_mapIdx, List.length_append]

theorem length_modules_le_after (host : Host) (steps : List HostStep) :
    host.modules.length ≤ (host.after steps).modules.length := by
  induction steps generalizing host with
  | nil => exact Nat.le_refl _
  | cons step rest ih =>
      have grown := length_modules_next host step
      exact Nat.le_trans (Nat.le.intro grown.symm) (ih (host.next step))

/-- A module that is not there yet is made by one of the steps. -/
theorem exists_creation {steps : List HostStep} (absent : host.modules.length ≤ number)
    (found : (host.after steps).modules[number]? = some target) :
    ∃ start created rest made, steps = start ++ created :: rest ∧
      (host.after start).modules.length = number ∧
      (host.after start).made? created = some made ∧
      target = made.afterSteps number rest := by
  induction steps generalizing host with
  | nil =>
      rw [after_nil, List.getElem?_eq_none absent] at found
      cases found
  | cons step rest ih =>
      by_cases still : (host.next step).modules.length ≤ number
      · rcases ih still found with ⟨start, created, others, made, split, length, makes, same⟩
        exact ⟨step :: start, created, others, made, congrArg (step :: ·) split, length, makes,
          same⟩
      · rw [length_modules_next] at still
        cases makes : host.made? step with
        | none =>
            rw [makes] at still
            exact absurd absent still
        | some made =>
            rw [makes, Option.toList_some, List.length_singleton] at still
            have length : host.modules.length = number := by omega
            subst length
            have kept := getElem?_modules_after (getElem?_modules_next_of_made makes) rest
            rw [after_cons, kept] at found
            cases found
            exact ⟨[], step, rest, made, rfl, rfl, makes, rfl⟩

/-- The device for which a step has loaded a module, if it was answered without
an error. -/
def loadDone (number : Nat) (step : HostStep) : Except HostError HostAnswer → List String
  | .ok _ => (step.loadFor? number).toList
  | .error _ => []

/-- The devices for which a run has loaded a module. -/
def loads (host : Host) (number : Nat) (steps : List HostStep) : List String :=
  (steps.zip (host.answers steps)).flatMap fun (step, answer) => loadDone number step answer

theorem loads_cons (host : Host) (number : Nat) (step : HostStep) (rest : List HostStep) :
    host.loads number (step :: rest) =
      loadDone number step (host.answer step) ++ (host.next step).loads number rest :=
  flatMap_answers_cons _ host step rest

theorem loads_append (host : Host) (number : Nat) (first second : List HostStep) :
    host.loads number (first ++ second) =
      host.loads number first ++ (host.after first).loads number second := by
  induction first generalizing host with
  | nil => rfl
  | cons step rest ih =>
      rw [List.cons_append, loads_cons, loads_cons, ih, List.append_assoc]
      rfl

theorem loadDone_of_noLoad {step : HostStep} (noLoad : step.loadFor? number = none)
    (answer : Except HostError HostAnswer) : loadDone number step answer = [] := by
  cases answer with
  | ok value => rw [loadDone, noLoad, Option.toList_none]
  | error error => rfl

theorem load_fails_of_absent (absent : host.modules[number]? = none) (device : String) :
    host.step (.load number device) = host.fail (.noModule number) := by
  rw [step, withModule, absent]

theorem load_fails_of_loaded (found : host.modules[number]? = some target)
    (loaded : target.loaded = true) (device : String) :
    host.step (.load number device) = host.fail (.alreadyLoaded target.name) := by
  simp only [step, withModule, found, Module.load?_of_loaded loaded]

/-- A module that is loaded refuses to be loaded again, and the host stays as it
is. -/
theorem step_load_of_loaded (found : host.modules[number]? = some target)
    (loaded : target.loaded = true) (device : String) :
    (host.step (.load number device)).value = (host, .error (.alreadyLoaded target.name)) :=
  congrArg Logged.value (load_fails_of_loaded found loaded device)

theorem answer_load_of_unloaded (found : host.modules[number]? = some target)
    (unloaded : target.loaded = false) (device : String) :
    ∃ value, host.answer (.load number device) = .ok value := by
  simp only [answer, step, withModule, found, Module.load?_of_unloaded unloaded]
  exact ⟨_, rfl⟩

/-- Of all attempts to load a module the first one succeeds, and no other. -/
theorem loads_of_some (found : host.modules[number]? = some target) (steps : List HostStep) :
    host.loads number steps =
      if target.loaded then [] else (loadAttempts number steps).take 1 := by
  induction steps generalizing host target with
  | nil => cases target.loaded <;> rfl
  | cons step rest ih =>
      have later := ih (getElem?_modules_next_of_some found step)
      rw [loads_cons, later, loadAttempts_cons]
      cases load : step.loadFor? number with
      | none =>
          rw [loadDone_of_noLoad load, Module.loaded_respond_of_noLoad load]
          rfl
      | some device =>
          have same := HostStep.loadFor?_eq_some_iff.1 load
          subst same
          rw [Module.respond_of_load load]
          cases loaded : target.loaded with
          | true =>
              have refused := step_load_of_loaded found loaded device
              rw [answer, refused, Module.load?_of_loaded loaded, Option.getD_none, loaded]
              rfl
          | false =>
              rcases answer_load_of_unloaded found loaded device with ⟨value, answered⟩
              rw [answered, loadDone, load, Module.load?_of_unloaded loaded]
              rfl

/-- Attempts to load a module that is not there yet fail. -/
theorem loads_of_absent {steps : List HostStep}
    (absent : (host.after steps).modules.length ≤ number) : host.loads number steps = [] := by
  induction steps generalizing host with
  | nil => rfl
  | cons step rest ih =>
      have others : (host.next step).loads number rest = [] := ih absent
      rw [loads_cons, others, List.append_nil]
      cases load : step.loadFor? number with
      | none => exact loadDone_of_noLoad load _
      | some device =>
          have same := HostStep.loadFor?_eq_some_iff.1 load
          subst same
          have length := Nat.le_trans (length_modules_le_after host _) absent
          rw [answer, load_fails_of_absent (List.getElem?_eq_none length)]
          rfl

/-- If the factories of a host do what they are to do, each step makes a fresh
module or none. -/
theorem isFresh_of_made (contract : host.KeepsContract) {step : HostStep} {made : Module}
    (makes : host.made? step = some made) : made.IsFresh := by
  cases step with
  | create other type name =>
      simp only [made?, Registry.create?, Option.bind_eq_some_iff, Option.map_eq_some_iff] at makes
      rcases makes with ⟨registry, there, factory, known, same⟩
      have fresh := contract registry (List.mem_of_getElem? there) type factory known
      rw [← same]
      exact ⟨fresh.unloaded, fresh.empty⟩
  | newModule name =>
      cases makes
      exact ⟨rfl, rfl⟩
  | makeDefaults table =>
      cases makes
      exact ⟨rfl, rfl⟩
  | _ => cases makes

/-- A module can be loaded from the step on that makes it. -/
theorem loads_of_made {start : List HostStep} {created : HostStep} {made : Module}
    (rest : List HostStep) (makes : (host.after start).made? created = some made)
    (unloaded : made.loaded = false) :
    host.loads (host.after start).modules.length (start ++ created :: rest) =
      (loadAttempts (host.after start).modules.length rest).take 1 := by
  have noLoad := (elsewhere_of_made makes (host.after start).modules.length).2
  rw [loads_append, loads_of_absent (Nat.le_refl _), loads_cons, loadDone_of_noLoad noLoad,
    loads_of_some (getElem?_modules_next_of_made makes), unloaded]
  rfl

/-- Each module of a run was made by one of the steps; it was fresh then if the
factories do what they are to do.  A module that was fresh is in one of two
conditions.  Without an attempt to load it, it is as it was made but for its
hooks.  Otherwise the first attempt alone succeeded, and its flags are those of
the hooks that it had then, in their order; it refuses all further attempts.
Only steps about the module can change it. -/
theorem module_life (steps : List HostStep) (number : Nat) (target : Module)
    (found : (initial.after steps).modules[number]? = some target) :
    (∃ start created rest made, steps = start ++ created :: rest ∧
      (initial.after start).modules.length = number ∧
      (initial.after start).made? created = some made ∧ target.name = made.name ∧
      ((∀ step ∈ start, step.KeepsContract) → made.IsFresh) ∧
      (made.IsFresh →
        (loadAttempts number rest = [] ∧ initial.loads number steps = [] ∧
          target.loaded = false ∧ target.properties.cflags = []) ∨
        ∃ before device later, rest = before ++ .load number device :: later ∧
          loadAttempts number before = [] ∧ initial.loads number steps = [device] ∧
          target.loaded = true ∧
          target.properties.cflags =
            (made.hooks ++ hooksAdded number before).flatMap (·.flagsFor device))) ∧
      (target.loaded = true → ∀ device,
        ((initial.after steps).step (.load number device)).value =
          (initial.after steps, .error (.alreadyLoaded target.name))) ∧
      (∀ step, (∀ hook, step ≠ .addHook number hook) → (∀ device, step ≠ .load number device) →
        ((initial.after steps).next step).modules[number]? = some target) ∧
      (∀ more, ∃ future, (initial.after (steps ++ more)).modules[number]? = some future ∧
        future.name = target.name ∧
        (target.loaded = true →
          future.loaded = true ∧ future.properties = target.properties)) ∧
      (∀ table device, (Hook.rules table).flagsFor device = table.resolve device) ∧
      ∀ flagsOf device, (Hook.plain flagsOf).flagsFor device = flagsOf device := by
  refine ⟨?life, step_load_of_loaded found, ?frame, ?future, fun _ _ => rfl, fun _ _ => rfl⟩
  case life =>
    rcases exists_creation (Nat.zero_le number) found with
      ⟨start, created, rest, made, split, length, makes, same⟩
    have name : target.name = made.name := by
      rw [same, Module.name_afterSteps]
    refine ⟨start, created, rest, made, split, length, makes, name, ?fresh, ?conditions⟩
    case fresh =>
      intro contract
      exact isFresh_of_made ((keepsContract_withRegistries 1).after contract) makes
    case conditions =>
      intro fresh
      have loads := loads_of_made rest makes fresh.unloaded
      rw [length, ← split] at loads
      have life := made.afterSteps_life number fresh.unloaded rest
      rw [← same, fresh.empty] at life
      rcases life with ⟨none, unloaded, noFlags⟩ |
        ⟨before, device, later, divided, noneBefore, first, loaded, flags⟩
      · left
        rw [none] at loads
        exact ⟨none, loads, unloaded, congrArg Properties.cflags noFlags⟩
      · right
        rw [first] at loads
        exact ⟨before, device, later, divided, noneBefore, loads, loaded,
          congrArg Properties.cflags flags⟩
  case frame =>
    intro step noHook noLoad
    rw [getElem?_modules_next_of_some found, Module.respond_of_elsewhere noHook noLoad]
  case future =>
    intro more
    rw [after_append]
    refine ⟨_, getElem?_modules_after found more, Module.name_afterSteps number target more, ?_⟩
    intro loaded
    rw [Module.afterSteps_of_settled (.inl loaded)]
    exact ⟨loaded, rfl⟩

/-- A module of the defaults type keeps the flags of its first device. -/
theorem module_life_second_load :
    let steps : List HostStep :=
      [.makeDefaults ⟨[⟨"board", "-DBOARD"⟩]⟩, .load 0 "board", .addHook 0 (.fixed ["-DLATE"])]
    ∃ target, (initial.after steps).modules[0]? = some target ∧
      target.properties.cflags = ["-DBOARD"] ∧
      ((initial.after steps).step (.load 0 "other")).value =
        (initial.after steps, .error (.alreadyLoaded "sys_gps_defaults")) := by
  intro steps
  rcases module_life steps 0 _ rfl with ⟨-, refused, -⟩
  exact ⟨_, rfl, by decide, refused rfl "other"⟩

end Host

end DeviceFlags
