import DeviceFlags.Proofs.Host.Modules

/-!
# Loading in one pass

A module is loaded hook after hook, and a hook with rules goes through them rule
by rule.  Each flag is reported when it is found and added right away.  One such
pass ends with the flags of all hooks, and what it reports can be told from them.
-/

namespace DeviceFlags

/-- The flags of a device among some rules, each reported as it is found. -/
def gather (device : String) : List Rule → Logged Event (List String)
  | [] => .silent []
  | rule :: rest =>
      let others := gather device rest
      if rule.appliesTo device then
        ⟨rule.flag :: others.value, .ruleMatched device rule.flag :: others.events⟩
      else others

theorem gather_eq (device : String) (rules : List Rule) :
    gather device rules =
      ⟨RuleTable.resolve ⟨rules⟩ device,
        (RuleTable.resolve ⟨rules⟩ device).map (.ruleMatched device)⟩ := by
  induction rules with
  | nil => rfl
  | cons rule rest ih =>
      cases applies : rule.appliesTo device with
      | true => simp [gather, ih, RuleTable.resolve, applies]
      | false => simp [gather, ih, RuleTable.resolve, applies]

namespace Hook

/-- Runs a hook, which adds to the properties of its module. -/
def run (device : String) (properties : Properties) : Hook → Logged Event Properties
  | .rules table =>
      let found := gather device table.rules
      ⟨properties ++ ⟨found.value⟩, .deviceAsked device :: found.events⟩
  | .plain flagsOf => .silent (properties ++ ⟨flagsOf device⟩)

theorem run_eq (device : String) (properties : Properties) (hook : Hook) :
    hook.run device properties =
      ⟨properties ++ ⟨hook.flagsFor device⟩, hook.eventsFor device⟩ := by
  cases hook with
  | rules table =>
      rw [run, gather_eq]
      rfl
  | plain flagsOf => rfl

/-- Runs hooks one after another. -/
def runAll (device : String) (properties : Properties) : List Hook → Logged Event Properties
  | [] => .silent properties
  | hook :: rest =>
      let first := hook.run device properties
      let others := runAll device first.value rest
      ⟨others.value, first.events ++ others.events⟩

theorem runAll_eq (device : String) (properties : Properties) (hooks : List Hook) :
    runAll device properties hooks =
      ⟨⟨properties.cflags ++ hooks.flatMap (·.flagsFor device)⟩,
        hooks.flatMap (·.eventsFor device)⟩ := by
  induction hooks generalizing properties with
  | nil => simp [runAll, Logged.silent]
  | cons hook rest ih => simp [runAll, run_eq, ih]

end Hook

namespace Module

/-- Loads a module in one pass over its hooks, and reports it with the flags that
it has then. -/
def loadPass (target : Module) (device : String) : Logged Event Module :=
  let ran := Hook.runAll device target.properties target.hooks
  ⟨{ target with properties := ran.value, loaded := true },
    ran.events ++ [.moduleLoaded target.name target.hooks.length ran.value.cflags.length]⟩

variable {target : Module} {device : String}

/-- The pass does what loading does. -/
theorem load?_eq_loadPass (unloaded : target.loaded = false) :
    target.load? device = some (target.loadPass device).value := by
  rw [load?_of_unloaded unloaded, loadPass, Hook.runAll_eq]
  rfl

theorem events_loadPass (target : Module) (device : String) :
    (target.loadPass device).events = target.loadEvents device := by
  simp [loadPass, Hook.runAll_eq, loadEvents]

theorem cflags_loadPass (target : Module) (device : String) :
    (target.loadPass device).value.properties.cflags =
      target.properties.cflags ++ target.hooks.flatMap (·.flagsFor device) := by
  rw [loadPass, Hook.runAll_eq]

end Module

end DeviceFlags
