import DeviceFlags.Proofs.Host.Registration
import DeviceFlags.Proofs.Host.Run
import Mathlib.Data.List.Forall2

/-!
# The registries of a host over a run

A registry changes by registrations in itself and by nothing else.  A copy
begins as the registry that it was copied from, and the two go their own ways.
So a registry is told from the registrations that were tried in it or, before
the copying, in the one that it was copied from.

A factory is to make modules that are not loaded and have no properties.  If all
that are registered do, so do all that a registry ever has.
-/

namespace DeviceFlags

/-- Whether a step registers a factory in the registry of a number. -/
def HostStep.registersIn (number : Nat) : HostStep → Bool
  | .registerFactory other _ _ => other = number
  | _ => false

/-- A module as a factory is to make it: not loaded, and without properties. -/
structure Module.IsFresh (target : Module) : Prop where
  unloaded : target.loaded = false
  empty : target.properties = ∅

theorem Module.IsFresh.rename {target : Module} (fresh : target.IsFresh) (name : String) :
    { target with name } = (⟨name, ∅, target.hooks, false⟩ : Module) := by
  rw [fresh.unloaded, fresh.empty]

theorem ModuleType.isFresh_make (type : ModuleType) : type.make.IsFresh :=
  ⟨rfl, rfl⟩

/-- A step that may register a factory, but none that makes other than fresh
modules. -/
def HostStep.KeepsContract : HostStep → Prop
  | .registerFactory _ _ factory => factory.made.IsFresh
  | _ => True

theorem HostStep.keepsContract_register (registry : Nat) (name : String) (type : ModuleType) :
    (HostStep.register registry name type).KeepsContract :=
  type.isFresh_make

namespace Registry

/-- What a step makes of the registry of a number. -/
def respond (number : Nat) (registry : Registry) : HostStep → Registry
  | .registerFactory other name factory =>
      if other = number then registry.offer name factory else registry
  | _ => registry

theorem respond_of_elsewhere {number : Nat} {step : HostStep}
    (elsewhere : step.registersIn number = false) (registry : Registry) :
    registry.respond number step = registry := by
  cases step with
  | registerFactory other name factory =>
      rw [HostStep.registersIn, decide_eq_false_iff_not] at elsewhere
      exact if_neg elsewhere
  | _ => rfl

end Registry

namespace Host

/-! ## One step -/

/-- What a step makes of the registries of a host, whatever its modules are. -/
def registriesAfter (registries : List Registry) : HostStep → List Registry
  | .registerFactory number name factory => registries.modify number (·.offer name factory)
  | .addDefaultsRegistry table =>
      registries ++
        [(∅ : Registry).offer ModuleType.defaultsName (ModuleType.defaults table).factory]
  | .clone number => registries ++ registries[number]?.toList
  | _ => registries

variable {host : Host} {number : Nat} {registry : Registry}

theorem register_fails_of_mem (found : host.registries[number]? = some registry) {name : String}
    (taken : name ∈ registry.names) (factory : Factory) :
    host.step (.registerFactory number name factory) = host.fail (.duplicateType name) := by
  simp only [step, withRegistry, found, Registry.register?_of_mem taken]

theorem step_register_of_mem (found : host.registries[number]? = some registry) {name : String}
    (taken : name ∈ registry.names) (factory : Factory) :
    (host.step (.registerFactory number name factory)).value =
      (host, .error (.duplicateType name)) :=
  congrArg Logged.value (register_fails_of_mem found taken factory)

theorem step_register_of_notMem (found : host.registries[number]? = some registry) {name : String}
    (fresh : name ∉ registry.names) (factory : Factory) :
    (host.step (.registerFactory number name factory)).value =
      ({ host with registries := host.registries.set number (registry.offer name factory) },
        .ok (.names (registry.offer name factory).names)) := by
  simp only [step, withRegistry, found, Registry.register?_of_notMem fresh]

theorem step_clone (found : host.registries[number]? = some registry) :
    (host.step (.clone number)).value =
      (host.addRegistry registry, .ok (.copied host.registries.length)) := by
  simp only [step, withRegistry, found]
  rfl

/-- The registries after a step, from those before it. -/
theorem registries_next (host : Host) (step : HostStep) :
    (host.next step).registries = registriesAfter host.registries step := by
  cases step with
  | registerFactory number name factory =>
      rw [registriesAfter, List.modify_eq_set_getElem?]
      cases found : host.registries[number]? with
      | none =>
          simp only [next, step, withRegistry, found]
          rfl
      | some registry =>
          change _ = host.registries.set number (registry.offer name factory)
          by_cases taken : name ∈ registry.names
          -- A refused registration puts the registry where it is already.
          · rcases List.getElem?_eq_some_iff.1 found with ⟨inBounds, same⟩
            rw [next, step_register_of_mem found taken, Registry.offer_of_mem taken, ← same]
            exact (List.set_getElem_self inBounds).symm
          · rw [next, step_register_of_notMem found taken]
  | addDefaultsRegistry table => rfl
  | clone number =>
      cases found : host.registries[number]? with
      | none =>
          simp only [next, step, withRegistry, found, registriesAfter]
          exact (List.append_nil _).symm
      | some registry =>
          rw [next, step_clone found, registriesAfter, found]
          rfl
  | create number type name =>
      apply withRegistry_keeps registries
      intro registry
      cases registry.create? type name <;> rfl
  | newModule name => rfl
  | makeDefaults table => rfl
  | addHook number hook => exact withModule_keeps registries fun _ => rfl
  | load number device =>
      apply withModule_keeps registries
      intro target
      cases target.load? device <;> rfl
  | names number => exact withRegistry_keeps registries fun _ => rfl
  | contains number name => exact withRegistry_keeps registries fun _ => rfl
  | describeRegistry number => exact withRegistry_keeps registries fun _ => rfl
  | state number => exact withModule_keeps registries fun _ => rfl
  | blueprint number => exact withModule_keeps registries fun _ => rfl
  | describeModule number => exact withModule_keeps registries fun _ => rfl

/-! ## What a factory is to do -/

/-- A host whose registries have none but factories of fresh modules. -/
def KeepsContract (host : Host) : Prop :=
  ∀ registry ∈ host.registries, ∀ name factory,
    registry.factories.lookup name = some factory → factory.made.IsFresh

theorem keepsContract_offer {name : String} {factory : Factory}
    (kept : ∀ other known, registry.factories.lookup other = some known → known.made.IsFresh)
    (fresh : factory.made.IsFresh) :
    ∀ other known, (registry.offer name factory).factories.lookup other = some known →
      known.made.IsFresh := by
  intro other known found
  rw [Registry.lookup_offer, Option.or_eq_some_iff] at found
  rcases found with before | ⟨-, offered⟩
  · exact kept other known before
  · rw [Option.ite_none_right_eq_some] at offered
    rw [← Option.some.inj offered.2]
    exact fresh

/-- A step that registers a factory of fresh modules, or none, leaves no others. -/
theorem KeepsContract.next (kept : host.KeepsContract) {step : HostStep}
    (keeps : step.KeepsContract) : (host.next step).KeepsContract := by
  intro registry member
  rw [registries_next] at member
  cases step with
  | registerFactory number name factory =>
      rcases List.mem_iff_getElem?.1 member with ⟨position, found⟩
      rw [registriesAfter, List.getElem?_modify] at found
      rcases Option.map_eq_some_iff.1 found with ⟨before, there, same⟩
      have keptBefore := kept before (List.mem_of_getElem? there)
      split at same
      · rw [← same]
        exact keepsContract_offer keptBefore keeps
      · rw [← same]
        exact keptBefore
  | addDefaultsRegistry table =>
      rcases List.mem_append.1 member with before | added
      · exact kept registry before
      · rw [List.mem_singleton] at added
        rw [added]
        apply keepsContract_offer _ (ModuleType.isFresh_make _)
        intro other known found
        cases found
  | clone number =>
      rcases List.mem_append.1 member with before | copied
      · exact kept registry before
      · rw [Option.mem_toList] at copied
        exact kept registry (List.mem_of_getElem? copied)
  | _ => exact kept registry member

theorem KeepsContract.after (kept : host.KeepsContract) {steps : List HostStep}
    (keeps : ∀ step ∈ steps, step.KeepsContract) : (host.after steps).KeepsContract := by
  induction steps generalizing host with
  | nil => exact kept
  | cons step rest ih =>
      rw [List.forall_mem_cons] at keeps
      exact ih (kept.next keeps.1) keeps.2

/-! ## Apart from all others -/

theorem getElem?_registries_next_of_some (found : host.registries[number]? = some registry)
    (step : HostStep) :
    (host.next step).registries[number]? = some (registry.respond number step) := by
  have inBounds := (List.getElem?_eq_some_iff.1 found).1
  rw [registries_next]
  cases step with
  | registerFactory other name factory =>
      rw [registriesAfter, List.getElem?_modify, found, Registry.respond]
      split <;> rfl
  | addDefaultsRegistry table => exact (List.getElem?_append_left inBounds).trans found
  | clone other => exact (List.getElem?_append_left inBounds).trans found
  | _ => exact found

theorem getElem?_registries_after (found : host.registries[number]? = some registry)
    (steps : List HostStep) :
    (host.after steps).registries[number]? =
      some (steps.foldl (Registry.respond number) registry) := by
  induction steps generalizing host registry with
  | nil => exact found
  | cons step rest ih => exact ih (getElem?_registries_next_of_some found step)

/-- What becomes of a registry depends on the registrations in itself alone. -/
theorem getElem?_registries_after_filter (found : host.registries[number]? = some registry)
    (steps : List HostStep) :
    (host.after (steps.filter (·.registersIn number))).registries[number]? =
      (host.after steps).registries[number]? := by
  have same : (fun registry step => if HostStep.registersIn number step then
      Registry.respond number registry step else registry) = Registry.respond number := by
    funext registry step
    split
    next => rfl
    next elsewhere =>
      rw [Bool.not_eq_true] at elsewhere
      exact (Registry.respond_of_elsewhere elsewhere registry).symm
  rw [getElem?_registries_after found, getElem?_registries_after found, List.foldl_filter, same]

theorem getElem?_registries_next_clone (found : host.registries[number]? = some registry) :
    (host.next (.clone number)).registries[host.registries.length]? = some registry := by
  rw [registries_next, registriesAfter, found, Option.toList_some, List.getElem?_concat_length]

/-! ## Told from the registrations -/

/-- The registrations tried in each registry, after a step that was answered
with or without an error.  A copy takes those of the registry that it is copied
from. -/
def historiesAfter (histories : List (List Registration)) (accepted : Bool) :
    HostStep → List (List Registration)
  | .registerFactory number name factory =>
      histories.modify number (· ++ [⟨name, factory, accepted⟩])
  | .addDefaultsRegistry table =>
      histories ++ [[⟨ModuleType.defaultsName, (ModuleType.defaults table).factory, accepted⟩]]
  | .clone number => histories ++ histories[number]?.toList
  | _ => histories

/-- The registrations tried in each registry, after some steps. -/
def histories (host : Host) (start : List (List Registration)) (steps : List HostStep) :
    List (List Registration) :=
  (steps.zip (host.answers steps)).foldl
    (fun histories (step, answer) => historiesAfter histories answer.isOk step) start

theorem histories_cons (host : Host) (start : List (List Registration)) (step : HostStep)
    (rest : List HostStep) :
    host.histories start (step :: rest) =
      (host.next step).histories (historiesAfter start (host.answer step).isOk step) rest := rfl

theorem isOk_answer_register_iff (found : host.registries[number]? = some registry)
    (name : String) (factory : Factory) :
    (host.answer (.registerFactory number name factory)).isOk = true ↔ name ∉ registry.names := by
  by_cases taken : name ∈ registry.names
  · rw [answer, step_register_of_mem found taken]
    simp [taken, Except.isOk, Except.toBool]
  · rw [answer, step_register_of_notMem found taken]
    simp [taken, Except.isOk, Except.toBool]

section Pairs

variable {α β : Type} {relation : α → β → Prop} {first : List α} {second : List β}

theorem forall₂_toList_getElem? (all : List.Forall₂ relation first second) (number : Nat) :
    List.Forall₂ relation first[number]?.toList second[number]?.toList := by
  induction all generalizing number with
  | nil => exact .nil
  | cons head _ ih =>
      cases number with
      | zero => exact .cons head .nil
      | succ number => exact ih number

theorem forall₂_modify (all : List.Forall₂ relation first second) (number : Nat)
    {change : α → α} {change' : β → β}
    (kept : ∀ value value', first[number]? = some value → relation value value' →
      relation (change value) (change' value')) :
    List.Forall₂ relation (first.modify number change) (second.modify number change') := by
  induction all generalizing number with
  | nil => simp
  | cons head tail ih =>
      cases number with
      | zero => exact .cons (kept _ _ rfl head) tail
      | succ number => exact .cons head (ih number kept)

end Pairs

variable {start : List (List Registration)}

/-- A step keeps the registries and their histories in step. -/
theorem records_next (records : List.Forall₂ Registry.Records host.registries start)
    (step : HostStep) :
    List.Forall₂ Registry.Records (host.next step).registries
      (historiesAfter start (host.answer step).isOk step) := by
  rw [registries_next]
  cases step with
  | registerFactory number name factory =>
      apply forall₂_modify records
      intro registry history found recorded
      exact recorded.offer factory (isOk_answer_register_iff found name factory)
  | addDefaultsRegistry table =>
      have added :
          ((∅ : Registry).offer ModuleType.defaultsName (ModuleType.defaults table).factory).Records
            [⟨ModuleType.defaultsName, (ModuleType.defaults table).factory, true⟩] :=
        Registry.Records.empty.offer (ModuleType.defaults table).factory (by decide)
      exact List.rel_append records (.cons added .nil)
  | clone number => exact List.rel_append records (forall₂_toList_getElem? records number)
  | _ => exact records

theorem records_after (records : List.Forall₂ Registry.Records host.registries start)
    (steps : List HostStep) :
    List.Forall₂ Registry.Records (host.after steps).registries (host.histories start steps) := by
  induction steps generalizing host start with
  | nil => exact records
  | cons step rest ih =>
      rw [after_cons, histories_cons]
      exact ih (records_next records step)

/-- A host with some empty registries and no modules.  The initial host has one.
A registry that comes into use later is as good as there from the start. -/
def withRegistries (count : Nat) : Host :=
  ⟨List.replicate count ∅, []⟩

example : withRegistries 1 = initial := rfl

/-- The registrations tried in each registry, in a run that begins with some
empty registries. -/
def lineages (count : Nat) (steps : List HostStep) : List (List Registration) :=
  (withRegistries count).histories (List.replicate count []) steps

theorem keepsContract_withRegistries (count : Nat) : (withRegistries count).KeepsContract := by
  intro registry member name factory found
  rw [List.eq_of_mem_replicate member] at found
  cases found

theorem records_withRegistries (count : Nat) :
    List.Forall₂ Registry.Records (withRegistries count).registries (List.replicate count []) := by
  induction count with
  | zero => exact .nil
  | succ count ih => exact .cons .empty ih

theorem exists_lineage {count : Nat} {steps : List HostStep}
    (found : ((withRegistries count).after steps).registries[number]? = some registry) :
    ∃ history, (lineages count steps)[number]? = some history ∧ registry.Records history := by
  have pair : List.Forall₂ Registry.Records [registry] (lineages count steps)[number]?.toList := by
    rw [← Option.toList_some, ← found]
    exact forall₂_toList_getElem? (records_after (records_withRegistries count) steps) number
  cases lineage : (lineages count steps)[number]? with
  | none =>
      rw [lineage] at pair
      cases pair
  | some history =>
      rw [lineage] at pair
      cases pair with
      | cons records _ => exact ⟨history, rfl, records⟩

theorem step_create_of_lookup (found : host.registries[number]? = some registry)
    {typeName : String} {factory : Factory}
    (known : registry.factories.lookup typeName = some factory) (name : String) :
    (host.step (.create number typeName name)).value =
      ({ host with modules := host.modules ++ [{ factory.made with name }] },
        .ok (.state host.modules.length { factory.made with name })) := by
  simp only [step, withRegistry, found, Registry.create?_of_lookup known]
  rfl

theorem step_create_of_notMem (found : host.registries[number]? = some registry)
    {typeName : String} (unknown : typeName ∉ registry.names) (name : String) :
    (host.step (.create number typeName name)).value = (host, .error (.unknownType typeName)) := by
  simp only [step, withRegistry, found, Registry.create?_of_notMem unknown]
  rfl

/-- Each registry of a run is told from the registrations that were tried in it
or, before the copying, in the registry that it was copied from.  Its names are
in ascending order, and are those that were accepted.  A name that is taken is
refused, and nothing changes.  A module can be made of the names in the registry
and no others: the one that the factory makes that was registered first, under the
name that is asked for.  It is not loaded, has no properties and has the hooks of
this factory, if the factories do what they are to do.  A copy and the registry
that it was copied from depend on their own registrations only. -/
theorem registry_lineage (count : Nat) (steps : List HostStep) (number : Nat)
    (registry : Registry)
    (found : ((withRegistries count).after steps).registries[number]? = some registry) :
    let host := (withRegistries count).after steps
    registry.names.Pairwise (· < ·) ∧
      host.answer (.names number) = .ok (.names registry.names) ∧
      (∀ name, host.answer (.contains number name) =
        .ok (.truth (decide (name ∈ registry.names)))) ∧
      (∃ history, (lineages count steps)[number]? = some history ∧
        (∀ name, name ∈ registry.names ↔
          ∃ entry ∈ history, entry.name = name ∧ entry.accepted = true) ∧
        ∀ typeName ∈ registry.names, ∃ before first later,
          history = before ++ first :: later ∧ first.name = typeName ∧ first.accepted = true ∧
            (∀ entry ∈ before, entry.name ≠ typeName) ∧
            (∀ entry ∈ later, entry.name = typeName → entry.accepted = false) ∧
            (∀ name, (host.step (.create number typeName name)).value =
              ({ host with modules := host.modules ++ [{ first.factory.made with name }] },
                .ok (.state host.modules.length { first.factory.made with name }))) ∧
            ((∀ step ∈ steps, step.KeepsContract) → ∀ name,
              { first.factory.made with name } =
                (⟨name, ∅, first.factory.made.hooks, false⟩ : Module))) ∧
      (∀ typeName name, typeName ∉ registry.names →
        (host.step (.create number typeName name)).value =
          (host, .error (.unknownType typeName))) ∧
      (∀ name factory,
        ((host.step (.registerFactory number name factory)).value =
            (host, .error (.duplicateType name)) ↔ name ∈ registry.names) ∧
        (name ∉ registry.names → ∃ changed : Registry,
          (host.step (.registerFactory number name factory)).value =
            ({ host with registries := host.registries.set number changed },
              .ok (.names changed.names)) ∧
          ∀ other, other ∈ changed.names ↔ other = name ∨ other ∈ registry.names)) ∧
      ∀ more,
        let copy := host.registries.length
        let later := (host.after (.clone number :: more)).registries
        later[number]? =
            (host.after (more.filter (·.registersIn number))).registries[number]? ∧
          later[copy]? =
            (host.after (.clone number :: more.filter (·.registersIn copy))).registries[copy]? := by
  intro host
  rcases exists_lineage found with ⟨history, lineage, records⟩
  refine ⟨records.ascending, ?names, ?contains, ⟨history, lineage, ?accepted, ?creates⟩, ?unknown,
    ?registers, ?copies⟩
  case names =>
    simp only [host, answer, step, withRegistry, found]
    rfl
  case contains =>
    intro name
    simp only [host, answer, step, withRegistry, found, Registry.contains_eq]
    rfl
  case accepted =>
    intro name
    exact records.mem_names_iff_accepted
  case creates =>
    intro typeName known
    rcases records.exists_first known with
      ⟨before, first, later, split, named, accepted, others, refused, lookup⟩
    refine ⟨before, first, later, split, named, accepted, others, refused,
      step_create_of_lookup found lookup, ?_⟩
    intro contract name
    have kept := (keepsContract_withRegistries count).after contract
    exact (kept registry (List.mem_of_getElem? found) typeName first.factory lookup).rename name
  case unknown =>
    intro typeName name unknown
    exact step_create_of_notMem found unknown name
  case registers =>
    intro name factory
    refine ⟨⟨?_, fun taken => step_register_of_mem found taken factory⟩, ?_⟩
    · intro refused
      by_contra fresh
      rw [step_register_of_notMem found fresh] at refused
      cases congrArg Prod.snd refused
    · intro fresh
      exact ⟨_, step_register_of_notMem found fresh factory, fun _ => Registry.mem_names_offer⟩
  case copies =>
    intro more copy later
    exact ⟨(getElem?_registries_after_filter found (.clone number :: more)).symm,
      (getElem?_registries_after_filter (getElem?_registries_next_clone found) more).symm⟩

/-- A copy has the factories of its source up to the copying, refuses their names,
and is told from its own later registrations. -/
theorem registry_lineage_of_copy :
    let early : ModuleType := ⟨"early", [.fixed ["-DEARLY"]]⟩
    let late : ModuleType := ⟨"late", [.fixed ["-DLATE"]]⟩
    let steps : List HostStep :=
      [.register 0 "b" early, .clone 0, .register 1 "a" late, .register 1 "b" late,
        .register 0 "c" late]
    let host := (withRegistries 1).after steps
    (∀ step ∈ steps, step.KeepsContract) ∧
      ∃ copy, host.registries[1]? = some copy ∧ copy.names = ["a", "b"] ∧
        (lineages 1 steps)[1]?.map (·.map fun entry => (entry.name, entry.accepted)) =
          some [("b", true), ("a", true), ("b", false)] ∧
        host.answer (.create 1 "b" "m") = .ok (.state 0 ⟨"m", ∅, early.hooks, false⟩) ∧
        (host.step (.register 1 "b" late)).value = (host, .error (.duplicateType "b")) := by
  intro early late steps host
  have contract : ∀ step ∈ steps, step.KeepsContract := by
    simp only [steps, List.forall_mem_cons, HostStep.keepsContract_register, true_and]
    exact ⟨trivial, List.forall_mem_nil _⟩
  rcases registry_lineage 1 steps 1 _ rfl with
    ⟨-, -, -, ⟨history, lineage, -, makes⟩, -, registers, -⟩
  rcases registers "b" late.factory with ⟨refused, -⟩
  refine ⟨contract, _, rfl, by decide, by decide, ?creates, refused.2 (by decide)⟩
  case creates =>
    rcases makes "b" (by decide) with
      ⟨before, first, later, split, named, -, others, -, creates, fresh⟩
    have tried : [⟨"b", early.factory, true⟩, ⟨"a", late.factory, true⟩,
        ⟨"b", late.factory, false⟩] = history := Option.some.inj lineage
    rw [split] at tried
    cases before with
    | nil =>
        cases tried
        rw [answer, creates "m", fresh contract "m"]
        rfl
    | cons head rest =>
        rw [List.cons_append, List.cons.injEq] at tried
        exact absurd (congrArg Registration.name tried.1.symm) (others head List.mem_cons_self)

end Host

end DeviceFlags
