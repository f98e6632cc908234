import DeviceFlags.Proofs.Blueprint.ReadBack
import DeviceFlags.Proofs.Cli.Eval
import DeviceFlags.Proofs.Manifest

/-!
# What a printed module says

A module of the defaults type is printed in the build language.  Whoever reads
the text finds the device, the name and the flags that went into it, unless the
device leaves its line or the name leaves its quotes.
-/

namespace DeviceFlags.Cli

open Blueprint (read? moduleItems)

theorem isName_defaultsName : Blueprint.IsName ModuleType.defaultsName :=
  ⟨by decide, by decide⟩

/-- A module of the defaults type is always printed.  The flags of a table are
read back whatever they are; the device and the name stand in the text as they
are given. -/
theorem eval_reads_back_iff {files : FileSystem} {project : Option Path} {includeBuiltin : Bool}
    {extra : List Path} {table : RuleTable}
    (built : (EffectiveTable.build files project includeBuiltin extra).value = .ok table)
    (device name : String) :
    ∃ text, (evalModule (registryFor table) device ModuleType.defaultsName name).value = .ok text ∧
      (read? text =
          some (moduleItems device ModuleType.defaultsName name (table.resolve device)) ↔
        '\n' ∉ device.toList ∧ '"' ∉ name.toList ∧ '\\' ∉ name.toList) ∧
      ∀ (surroundings : Surroundings) (asked : Option String) (rules : List Path),
        (deviceAndTable surroundings asked false rules).value = .ok (device, table) →
        (Command.eval asked ModuleType.defaultsName name rules).outcome surroundings =
          ⟨0, String.ofList text, ""⟩ := by
  have within := table.newline_notMem_resolve (EffectiveTable.build_usable built) device
  refine ⟨_, evalModule_defaults table device name, ?reads, ?printed⟩
  case reads => exact Blueprint.read?_moduleText_iff within isName_defaultsName
  case printed =>
    intro surroundings asked rules selected
    rw [eval_outcome_of_ok selected, evalModule_defaults]
    rfl

/-- The built-in rules, and a module that is named after what it holds. -/
theorem eval_reads_back_builtin :
    ∃ text, (evalModule (registryFor RuleTable.builtin) "chinatsp_f202_p_8q"
        ModuleType.defaultsName "gps_defaults").value = .ok text ∧
      read? text = some (moduleItems "chinatsp_f202_p_8q" ModuleType.defaultsName "gps_defaults"
        (RuleTable.builtin.resolve "chinatsp_f202_p_8q")) := by
  have built : (EffectiveTable.build (FileSystem.ofEntries []) none true []).value =
      .ok RuleTable.builtin := rfl
  rcases eval_reads_back_iff built "chinatsp_f202_p_8q" "gps_defaults" with
    ⟨text, printed, reads, -⟩
  exact ⟨text, printed, reads.2 ⟨by decide, by decide, by decide⟩⟩

/-- A double quote in a name ends the name early. -/
theorem eval_not_read_back :
    let surroundings : Surroundings := ⟨FileSystem.ofEntries [], ⟨"/"⟩, none⟩
    let text :=
      "// device: d\nsys_gps_defaults \x7b\n    name: \"a\"b\",\n    cflags: [],\n\x7d\n"
    (Command.eval (some "d") ModuleType.defaultsName "a\"b" []).outcome surroundings =
        ⟨0, text, ""⟩ ∧
      read? text.toList ≠ some (moduleItems "d" ModuleType.defaultsName "a\"b" []) := by
  intro surroundings text
  have nobody : ∀ directory ∈ surroundings.workingDirectory.upward,
      ¬ Manifest.IsIn surroundings.files directory := by
    intro directory _ held
    rcases held with ⟨content, found⟩ | ⟨reason, found⟩ <;> cases found
  have noManifest : manifestFor surroundings = .ok none := by
    rw [manifestFor, Manifest.find_of_none _ (Manifest.holder?_eq_none_iff.2 nobody)]
    rfl
  have selected : (deviceAndTable surroundings (some "d") false []).value =
      .ok ("d", RuleTable.builtin) := by
    rw [deviceAndTable, noManifest]
    rfl
  have none : RuleTable.builtin.resolve "d" = [] := by decide
  have printed : String.ofList
      (Blueprint.moduleText "d" ModuleType.defaultsName "a\"b" ⟨[]⟩) = text := rfl
  constructor
  · rw [eval_outcome_of_ok selected, evalModule_defaults, none, ← printed]
    rfl
  · intro reads
    rw [← printed, String.toList_ofList,
      Blueprint.read?_moduleText_iff (List.forall_mem_nil _) isName_defaultsName] at reads
    exact reads.2.1 (by decide)

end DeviceFlags.Cli
