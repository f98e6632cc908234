import DeviceFlags.Cli.Run
import DeviceFlags.Proofs.Blueprint.Lines
import DeviceFlags.Proofs.EffectiveTable
import DeviceFlags.Proofs.Event

/-!
# Two ways to the flags of a device

Resolving a device and loading a module of the defaults type end with the same
flags, or fail in the same way: both begin with the same device and table, and
the module adds nothing but its own lines around those of the flags.
-/

namespace DeviceFlags

namespace Cli

theorem tableFor_usable {surroundings : Surroundings} {found : Option Manifest.Located}
    {noBuiltin : Bool} {rules : List Path} {table : RuleTable}
    (succeeded : (tableFor surroundings found noBuiltin rules).value = .ok table) :
    ∀ rule ∈ table.rules, rule.IsUsable := by
  rw [tableFor, Logged.value_mapError_ok_iff] at succeeded
  exact EffectiveTable.build_usable succeeded

/-- A device that is selected is the one that the manifest in force allows for,
and its table can be used as it is. -/
theorem deviceAndTable_ok {surroundings : Surroundings} {device : Option String}
    {noBuiltin : Bool} {rules : List Path} {selected : String} {table : RuleTable}
    (succeeded : (deviceAndTable surroundings device noBuiltin rules).value =
      .ok (selected, table)) :
    ∃ found, manifestFor surroundings = .ok found ∧
      Manifest.selectDevice device surroundings.device (found.map (·.manifest)) = some selected ∧
      ∀ rule ∈ table.rules, rule.IsUsable := by
  unfold deviceAndTable at succeeded
  cases manifest : manifestFor surroundings with
  | error failure =>
      rw [manifest] at succeeded
      cases succeeded
  | ok found =>
      simp only [manifest] at succeeded
      cases choice : Manifest.selectDevice device surroundings.device (found.map (·.manifest)) with
      | none =>
          rw [choice] at succeeded
          cases succeeded
      | some chosen =>
          rw [choice, Logged.value_andThen_ok_iff] at succeeded
          rcases succeeded with ⟨whole, built, same⟩
          cases same
          exact ⟨found, rfl, choice, tableFor_usable built⟩

theorem evalModule_defaults (table : RuleTable) (device name : String) :
    (evalModule (registryFor table) device ModuleType.defaultsName name).value =
      .ok (Blueprint.moduleText device ModuleType.defaultsName name ⟨table.resolve device⟩) := by
  have created : (registryFor table).create? ModuleType.defaultsName name =
      some (.fresh name [.rules table]) := by
    simp only [registryFor, Registry.create?, List.lookup_cons_self, Option.map_some]
    rfl
  have loaded : (Module.fresh name [.rules table]).load? device =
      some ⟨name, ⟨table.resolve device⟩, [.rules table], true⟩ := by
    simp only [Module.load?, Module.fresh, Bool.false_eq_true, if_false, List.flatMap_cons,
      List.flatMap_nil, List.append_nil]
    rfl
  simp only [evalModule, created, loaded]

theorem evalModule_unknown {type : String} (unknown : type ≠ ModuleType.defaultsName)
    (table : RuleTable) (device name : String) :
    (evalModule (registryFor table) device type name).value =
      .error (.creating (.unknownType type)) := by
  have absent : (registryFor table).create? type name = none := by
    rw [registryFor, Registry.create?, List.lookup_cons, beq_eq_false_iff_ne.2 unknown]
    rfl
  rw [evalModule, absent]
  rfl

/-- What a command leaves behind in some surroundings. -/
def Command.outcome (command : Command) (surroundings : Surroundings) : Outcome :=
  (command.run surroundings).value.outcome

section Outcomes

variable {surroundings : Surroundings} {device : Option String} {rules : List Path}

theorem outcome_of_error {failure : Failure}
    (failed : (deviceAndTable surroundings device false rules).value = .error failure) :
    let outcome : Outcome := ⟨1, "", "error: " ++ failure.account ++ "\n"⟩
    (Command.resolve device rules false .blueprint).outcome surroundings = outcome ∧
      ∀ type name, (Command.eval device type name rules).outcome surroundings = outcome := by
  have resolved : (resolve surroundings device rules false .blueprint).value = .error failure :=
    Logged.value_andThen_of_error failed
  have evaluated (type name : String) :
      (eval surroundings device type name rules).value = .error failure :=
    Logged.value_andThen_of_error failed
  constructor
  · simp only [Command.outcome, Command.run, resolved]
    rfl
  · intro type name
    simp only [Command.outcome, Command.run, Logged.value_recorded, evaluated]
    rfl

variable {selected : String} {table : RuleTable}

theorem resolve_outcome_of_ok
    (succeeded : (deviceAndTable surroundings device false rules).value = .ok (selected, table)) :
    (Command.resolve device rules false .blueprint).outcome surroundings =
      ⟨0, String.ofList (Blueprint.fragment (table.resolve selected) ++ ['\n']), ""⟩ := by
  rw [← Logged.value_recorded] at succeeded
  have resolved : (resolve surroundings device rules false .blueprint).value =
      .ok (Format.blueprint.render (table.resolve selected)) := by
    rw [resolve, Logged.value_andThen_of_ok succeeded]
  simp only [Command.outcome, Command.run, resolved, Report.ofResult, Report.outcome,
    Format.render]

theorem eval_outcome_of_ok
    (succeeded : (deviceAndTable surroundings device false rules).value = .ok (selected, table))
    (type name : String) :
    (Command.eval device type name rules).outcome surroundings =
      (Report.ofResult (evalModule (registryFor table) selected type name).value).outcome := by
  have evaluated : (eval surroundings device type name rules).value =
      (evalModule (registryFor table) selected type name).value :=
    Logged.value_andThen_of_ok succeeded
  simp only [Command.outcome, Command.run, Logged.value_recorded, evaluated]

end Outcomes

/-- Resolving a device in the build language and loading a module of the
defaults type fail with the same account, or succeed with the same lines, which
the module has between its own.  A module of any other type is never made. -/
theorem eval_agrees_with_resolve (surroundings : Surroundings) (device : Option String)
    (rules : List Path) (name : String) :
    let direct := (Command.resolve device rules false .blueprint).outcome surroundings
    let evaluated :=
      (Command.eval device ModuleType.defaultsName name rules).outcome surroundings
    ((∃ message, direct = ⟨1, "", message⟩ ∧ evaluated = ⟨1, "", message⟩) ∨
      ∃ (found : Option Manifest.Located) (selected : String) (lines : List String),
        manifestFor surroundings = .ok found ∧
        Manifest.selectDevice device surroundings.device (found.map (·.manifest)) =
          some selected ∧
        (∀ line ∈ lines, '\n' ∉ line.toList) ∧
        direct = ⟨0, String.join (lines.map fun line => line ++ "\n"), ""⟩ ∧
        evaluated =
          ⟨0, "// device: " ++ selected ++ "\n" ++ "sys_gps_defaults \x7b\n" ++
            ("    name: \"" ++ name ++ "\",\n") ++
            String.join (lines.map fun line => "    " ++ line ++ "\n") ++ "\x7d\n", ""⟩) ∧
      ∀ type, type ≠ ModuleType.defaultsName →
        ∃ message, (Command.eval device type name rules).outcome surroundings =
          ⟨1, "", message⟩ := by
  intro direct evaluated
  cases result : (deviceAndTable surroundings device false rules).value with
  | error failure =>
      have outcome := outcome_of_error result
      exact ⟨.inl ⟨_, outcome.1, outcome.2 _ name⟩, fun type _ => ⟨_, outcome.2 type name⟩⟩
  | ok pair =>
      rcases pair with ⟨selected, table⟩
      rcases deviceAndTable_ok result with ⟨found, manifest, choice, usable⟩
      have within := table.newline_notMem_resolve usable selected
      constructor
      · right
        refine ⟨found, selected,
          (Blueprint.fragmentLines (table.resolve selected)).map String.ofList,
          manifest, choice, ?_, ?_, ?_⟩
        · intro line member
          rcases List.mem_map.1 member with ⟨characters, among, rfl⟩
          rw [String.toList_ofList]
          exact Blueprint.newline_notMem_fragmentLines within characters among
        · have printed := resolve_outcome_of_ok result
          rw [Blueprint.fragment_append_newline, Blueprint.ofList_flatMap_line] at printed
          exact printed
        · have loaded := eval_outcome_of_ok result ModuleType.defaultsName name
          rw [evalModule_defaults, Report.ofResult, Report.outcome,
            Blueprint.ofList_moduleText within] at loaded
          exact loaded
      · intro type unknown
        rw [eval_outcome_of_ok result, evalModule_unknown unknown]
        exact ⟨_, rfl⟩

end Cli

end DeviceFlags
