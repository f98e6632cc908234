import DeviceFlags.Proofs.Cli.Eval
import DeviceFlags.Proofs.EffectiveTable
import DeviceFlags.Proofs.RuleTable.RoundTrip
import DeviceFlags.Proofs.RuleTable.Screening

/-!
# Checking a rule file and loading it

The check of a rule file writes its issues and counts the errors; loading the
file keeps the errors for its account and reports the warnings as events.  The
two agree on every file: one accepts what the other accepts, and they name the
same errors in the same order.
-/

namespace DeviceFlags

namespace Cli

variable {files : FileSystem} {path : Path} {table : RuleTable}

theorem validate_of_load_error {error : RuleFileError}
    (failed : RuleFile.load files path = .error error) :
    validate files path = ⟨[], some (.unchecked path error)⟩ := by
  rw [validate, failed]

/-- The check of a file with errors writes all issues and tells the number of
the errors. -/
theorem validate_of_errors (loaded : RuleFile.load files path = .ok table)
    (faulty : table.errors ≠ []) :
    validate files path =
      ⟨table.issues.flatMap issueLine, some (.refused path table.errors.length)⟩ := by
  have positive : 0 < table.errors.length := List.length_pos_iff.2 faulty
  have some : ¬ table.issues.isEmpty := by
    rw [List.isEmpty_iff]
    intro none
    exact faulty (by rw [RuleTable.errors, none]; rfl)
  rw [validate, loaded]
  simp only [if_neg some]
  exact if_pos positive

theorem failure_validate_of_no_errors (loaded : RuleFile.load files path = .ok table)
    (clean : table.errors = []) : (validate files path).failure = none := by
  have zero : ¬ 0 < table.errors.length := by simp [clean]
  rw [validate, loaded]
  by_cases none : table.issues.isEmpty
  · simp only [if_pos none]
  · simp only [if_neg none]
    rw [RuleTable.errors] at zero
    rw [if_neg zero]

theorem failure_validate_eq_none_iff :
    (validate files path).failure = none ↔
      ∃ table, RuleFile.load files path = .ok table ∧ table.errors = [] := by
  cases loaded : RuleFile.load files path with
  | error error => simp [validate_of_load_error loaded]
  | ok table =>
      by_cases clean : table.errors = []
      · simp [failure_validate_of_no_errors loaded clean, clean]
      · simp [validate_of_errors loaded clean, clean]

/-- The check accepts a file exactly if loading it gives a table. -/
theorem failure_validate_eq_none_iff_loaded :
    (validate files path).failure = none ↔
      ∃ table, (RuleFile.loadChecked files path).value = .ok table :=
  failure_validate_eq_none_iff.trans RuleFile.exists_loadChecked_ok_iff.symm

theorem exitCode_validate (surroundings : Surroundings) (path : Path) :
    ((Command.validate path).outcome surroundings).exitCode = 0 ↔
      (validate surroundings.files path).failure = none := by
  simp only [Command.outcome, Command.run, Logged.silent, Report.outcome]
  cases (validate surroundings.files path).failure with
  | none => simp
  | some failure => simp

/-- An effective table needs the files that the check accepts, and no others. -/
theorem exists_build_ok_iff {project : Option Path} {extra order : List Path}
    (isOrder : EffectiveTable.IsLoadOrder files project extra order) (includeBuiltin : Bool) :
    (∃ table, (EffectiveTable.build files project includeBuiltin extra).value = .ok table) ↔
      ∀ path ∈ order, (validate files path).failure = none := by
  simp only [failure_validate_eq_none_iff_loaded, RuleFile.loadChecked_value_iff]
  exact EffectiveTable.exists_build_ok_iff_gives isOrder includeBuiltin

/-- The line of an issue, word by word. -/
theorem issueLine_eq (issue : Issue) :
    issueLine issue =
      ("  " ++ (if issue.severity = .error then "error" else "warning") ++ ": " ++
        ("rule " ++ toString issue.rule ++ ": " ++ issue.fault.message) ++ "\n").toList := by
  rw [issueLine]
  cases issue.severity <;> rfl

/-- The check of a rule file and loading it accept the same files, and so do all
effective tables that the file is part of.  Of a text that they refuse for its
rules both name the same errors in the same order: the check counts the errors
among the issues that it writes, and loading lists these errors, each with the
number of its rule, and no warning.  The warnings are reported as events. -/
theorem validate_agrees_with_loadChecked (surroundings : Surroundings) (path : Path) :
    let files := surroundings.files
    let report := validate files path
    let loaded := RuleFile.loadChecked files path
    let part (issue : Issue) := "rule " ++ toString issue.rule ++ ": " ++ issue.fault.message
    let line (issue : Issue) :=
      ("  " ++ (if issue.severity = .error then "error" else "warning") ++ ": " ++
        part issue ++ "\n").toList
    let doubt (issue : Issue) := Event.ruleDoubted path.text issue.rule issue.fault.message
    (report.failure = none ↔ ∃ table, loaded.value = .ok table) ∧
      (((Command.validate path).outcome surroundings).exitCode = 0 ↔ report.failure = none) ∧
      (∀ project extra order, EffectiveTable.IsLoadOrder files project extra order →
        ∀ includeBuiltin,
          (∃ table,
            (EffectiveTable.build files project includeBuiltin extra).value = .ok table) ↔
            ∀ file ∈ order, (validate files file).failure = none) ∧
      ∀ text table, files.HoldsText path text → RuleTable.ofToml text = .ok table →
        loaded.events = (table.issuesOf .warning).map doubt ∧
          (report.failure ≠ none →
            let errors := table.issuesOf .error
            let parts := errors.map part
            0 < errors.length ∧ errors.length = parts.length ∧
              report = ⟨table.issues.flatMap line, some (.refused path errors.length)⟩ ∧
              (Command.validate path).outcome surroundings =
                ⟨1, String.ofList (table.issues.flatMap line),
                  "error: " ++ (path.text ++ ": " ++ toString errors.length ++ " error(s)") ++
                    "\n"⟩ ∧
              loaded.value = .error (.rejected path errors) ∧
              (RuleFileError.rejected path errors).message =
                "validation error: " ++ (path.text ++ ": " ++ "; ".intercalate parts) ∧
              errors.flatMap line =
                parts.flatMap (fun part => ("  error: " ++ part ++ "\n").toList) ∧
              ∀ issue ∈ table.issuesOf .warning,
                doubt issue ∈ loaded.events ∧ issue ∉ errors) := by
  intro files report loaded part line doubt
  refine ⟨failure_validate_eq_none_iff_loaded, exitCode_validate surroundings path,
    fun _ _ _ => exists_build_ok_iff, ?_⟩
  intro text table found decoded
  have load : RuleFile.load files path = .ok table := by
    rw [RuleFile.load_eq_of_holdsText found, decoded]
    rfl
  have events : loaded.events = (table.issuesOf .warning).map doubt := by
    rw [← RuleTable.warnings_eq]
    exact congrArg Logged.events (RuleFile.loadChecked_of_load_ok load)
  refine ⟨events, ?_⟩
  intro refused errors parts
  have faulty : table.errors ≠ [] := by
    intro clean
    exact refused (failure_validate_of_no_errors load clean)
  have lines : issueLine = line := funext issueLine_eq
  have report_eq : report =
      ⟨table.issues.flatMap line, some (.refused path errors.length)⟩ := by
    simp only [report, validate_of_errors load faulty, RuleTable.errors_eq, errors, lines]
  refine ⟨?positive, (List.length_map _).symm, report_eq, ?outcome, ?value, rfl, ?lines, ?warnings⟩
  case positive =>
    rw [RuleTable.errors_eq] at faulty
    exact List.length_pos_iff.2 faulty
  case outcome =>
    have same : validate surroundings.files path = report := rfl
    rw [Command.outcome, Command.run, Logged.silent, same, report_eq]
    rfl
  case value =>
    simp only [loaded, RuleFile.loadChecked_value_of_errors load faulty, RuleTable.errors_eq,
      errors]
  case lines =>
    rw [List.flatMap_map]
    apply List.flatMap_congr
    intro issue member
    simp only [line, (RuleTable.mem_issuesOf.1 member).2, if_true]
    rfl
  case warnings =>
    intro issue member
    constructor
    · rw [events]
      exact List.mem_map_of_mem member
    · intro among
      have warning := (RuleTable.mem_issuesOf.1 member).2
      have error := (RuleTable.mem_issuesOf.1 among).2
      rw [warning] at error
      cases error

/-- A file with an error and a warning: the error counts, the warning is an
event. -/
theorem validate_agrees_on_mixed_file :
    let table : RuleTable := ⟨[⟨"", "-DX"⟩, ⟨"board", "DBOARD"⟩]⟩
    let path : Path := ⟨"mixed.rules.toml"⟩
    let files := FileSystem.ofEntries [(path, .file table.toToml.toUTF8)]
    (validate files path).failure ≠ none ∧
      (RuleFile.loadChecked files path).events =
        [.ruleDoubted "mixed.rules.toml" 1 "flag 'DBOARD' does not start with '-'"] ∧
      (RuleFileError.rejected path (table.issuesOf .error)).message =
        "validation error: mixed.rules.toml: rule 0: device name is empty" ∧
      ((Command.validate path).outcome ⟨files, ⟨"/"⟩, none⟩).stderr =
        "error: mixed.rules.toml: 1 error(s)\n" := by
  intro table path files
  have found : files.HoldsText path table.toToml :=
    FileSystem.holdsText_ofEntries path table.toToml
  have decoded : RuleTable.ofToml table.toToml = .ok table := by
    rw [RuleTable.toToml_eq_write, RuleTable.ofToml_write]
  have load : RuleFile.load files path = .ok table := by
    rw [RuleFile.load_eq_of_holdsText found, decoded]
    rfl
  have refused : (validate files path).failure ≠ none := by
    rw [validate_of_errors load (by decide)]
    exact Option.some_ne_none _
  rcases validate_agrees_with_loadChecked ⟨files, ⟨"/"⟩, none⟩ path with ⟨-, -, -, decodes⟩
  rcases decodes _ _ found decoded with ⟨events, errors⟩
  rcases errors refused with ⟨-, -, -, outcome, -, message, -, -⟩
  refine ⟨refused, events.trans (by decide), message.trans (by decide), ?_⟩
  rw [outcome]
  decide

end Cli

end DeviceFlags
