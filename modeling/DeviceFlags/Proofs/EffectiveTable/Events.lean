import DeviceFlags.Proofs.EffectiveTable
import DeviceFlags.Proofs.RuleTable.Screening
import Mathlib.Algebra.BigOperators.Ring.Finset

/-!
# What is reported while an effective table is built

The files are loaded in one order, and each reports for itself: its warnings,
and then that it was loaded.  The file that ends the work reports its warnings
if it holds a table, and the files behind it report nothing.
-/

namespace DeviceFlags

/-- The number of rules that a file is said to hold when it was loaded. -/
def Event.rulesLoaded : Event → Nat
  | .fileLoaded _ rules => rules
  | _ => 0

namespace EffectiveTable

open RuleFile (Gives doubt)

/-- What a file reports that gives a table. -/
def fileEvents (path : Path) (table : RuleTable) : List Event :=
  table.warnings.map (doubt path) ++ [.fileLoaded path.text table.size]

/-- The record of a warning about a rule of a file. -/
def warningRecord (path : Path) (issue : Issue) : Record where
  level := .warning
  message := issue.fault.message
  details := [("path", path.text), ("rule", toString issue.rule)]

/-- The record of a file that was loaded. -/
def loadedRecord (path : Path) (table : RuleTable) : Record where
  level := .debug
  message := "loaded rule file"
  details := [("path", path.text), ("rules", toString table.size)]

theorem record_doubts (path : Path) (table : RuleTable) :
    (table.warnings.map (doubt path)).map Event.record =
      (table.issuesOf .warning).map (warningRecord path) := by
  rw [List.map_map, table.warnings_eq]
  rfl

theorem record_fileEvents (path : Path) (table : RuleTable) :
    (fileEvents path table).map Event.record =
      (table.issuesOf .warning).map (warningRecord path) ++ [loadedRecord path table] := by
  rw [fileEvents, List.map_append, record_doubts]
  rfl

/-! ## One file -/

section File

variable {files : FileSystem} {path : Path} {table added : RuleTable} {rest : List Path}

theorem loadChecked_events_of_decoded {text : String} (found : files.HoldsText path text)
    (decoded : RuleTable.ofToml text = .ok table) :
    (RuleFile.loadChecked files path).events = table.warnings.map (doubt path) := by
  have loaded : RuleFile.load files path = .ok table := by
    rw [RuleFile.load_eq_of_holdsText found, decoded]
    rfl
  rw [RuleFile.loadChecked_of_load_ok loaded]

/-- A file that gives no table reports nothing, unless it holds a table that was
refused. -/
theorem loadChecked_events_of_error {error : RuleFileError}
    (gives : Gives files path (.error error)) :
    (∃ text table, files.HoldsText path text ∧ RuleTable.ofToml text = .ok table ∧
        error = .rejected path table.errors ∧
        (RuleFile.loadChecked files path).events = table.warnings.map (doubt path)) ∨
      (∀ text table, files.HoldsText path text → RuleTable.ofToml text ≠ .ok table) ∧
        (RuleFile.loadChecked files path).events = [] := by
  cases loaded : RuleFile.load files path with
  | error other =>
      right
      constructor
      · intro text table found decoded
        rw [RuleFile.load_eq_of_holdsText found, decoded] at loaded
        cases loaded
      · rw [RuleFile.loadChecked_of_load_error loaded]
  | ok table =>
      left
      cases gives with
      | rejected found decoded faulty =>
          exact ⟨_, _, found, decoded, rfl, loadChecked_events_of_decoded found decoded⟩
      | absent nothing => simp [RuleFile.load, FileSystem.readText, nothing] at loaded
      | barred found => simp [RuleFile.load, FileSystem.readText, found] at loaded
      | directory found => simp [RuleFile.load, FileSystem.readText, found] at loaded
      | notText found bytes => simp [RuleFile.load, FileSystem.readText, found, bytes] at loaded
      | unfit found failed =>
          rw [RuleFile.load_eq_of_holdsText found, failed] at loaded
          cases loaded

theorem extend_events_of_table (gives : Gives files path (.ok added)) :
    (extend files table (path :: rest)).events =
      fileEvents path added ++ (extend files (table ++ added) rest).events := by
  have events : (RuleFile.loadChecked files path).events = added.warnings.map (doubt path) := by
    cases gives with
    | usable found decoded clean => exact loadChecked_events_of_decoded found decoded
  have succeeded := RuleFile.loadChecked_value_of_gives gives
  rw [extend, Logged.events_andThen_of_ok (Logged.value_mapError_ok_iff.2 succeeded),
    Logged.events_mapError, events, fileEvents, List.append_assoc]
  rfl

theorem extend_events_of_error {error : RuleFileError} (gives : Gives files path (.error error)) :
    (extend files table (path :: rest)).events = (RuleFile.loadChecked files path).events := by
  have failed := RuleFile.loadChecked_value_of_gives gives
  rw [extend, Logged.events_andThen_of_error (Logged.value_mapError_of_error failed),
    Logged.events_mapError]

end File

/-! ## One file after another -/

section Files

variable {files : FileSystem} {before : List Path} {parts : List RuleTable}

/-- What the files report that give tables. -/
def filesEvents (before : List Path) (parts : List RuleTable) : List Event :=
  (before.zip parts).flatMap fun (path, part) => fileEvents path part

/-- The files that give tables report first, whatever table they extend. -/
theorem extend_events_append
    (all : List.Forall₂ (fun path part => Gives files path (.ok part)) before parts)
    (table : RuleTable) (rest : List Path) :
    (extend files table (before ++ rest)).events =
      filesEvents before parts ++ (extend files (parts.foldl (· ++ ·) table) rest).events := by
  induction all generalizing table with
  | nil => rfl
  | cons head tail ih =>
      rw [List.cons_append, extend_events_of_table head, ih, ← List.append_assoc]
      rfl

theorem rulesLoaded_fileEvents (path : Path) (table : RuleTable) :
    ((fileEvents path table).map Event.rulesLoaded).sum = table.size := by
  have none : (table.warnings.map (doubt path)).map Event.rulesLoaded =
      table.warnings.map fun _ => 0 := by
    rw [List.map_map]
    rfl
  simp [fileEvents, none, Event.rulesLoaded]

theorem rulesLoaded_filesEvents
    (all : List.Forall₂ (fun path part => Gives files path (.ok part)) before parts) :
    ((filesEvents before parts).map Event.rulesLoaded).sum = (parts.map (·.size)).sum := by
  induction all with
  | nil => rfl
  | @cons path part before parts head tail ih =>
      have first : filesEvents (path :: before) (part :: parts) =
          fileEvents path part ++ filesEvents before parts := rfl
      rw [first, List.map_append, List.sum_append, rulesLoaded_fileEvents, ih, List.map_cons,
        List.sum_cons]

end Files

theorem size_of_parts {table first : RuleTable} {parts : List RuleTable}
    (same : table.rules = first.rules ++ parts.flatMap (·.rules)) :
    table.size = first.size + (parts.map (·.size)).sum := by
  rw [RuleTable.size, same, List.length_append, List.length_flatMap]
  rfl

/-- The records of the files that give tables: of each its warnings, and then that
it was loaded. -/
def filesRecords (before : List Path) (parts : List RuleTable) : List Record :=
  (before.zip parts).flatMap fun (path, part) =>
    (part.issuesOf .warning).map (warningRecord path) ++ [loadedRecord path part]

theorem record_filesEvents (before : List Path) (parts : List RuleTable) :
    (filesEvents before parts).map Event.record = filesRecords before parts := by
  rw [filesEvents, List.map_flatMap]
  apply List.flatMap_congr
  intro pair _
  exact record_fileEvents pair.1 pair.2

/-- The files are loaded in one order, and what is reported follows it.  A file
that gives a table reports its warnings in their order, and then its number of
rules.  The first file that gives none reports its warnings exactly if it holds
a table, which was refused then, and the files behind it report nothing.  If
there is no such file, the numbers of rules and that of the built-in rules add up
to that of the table. -/
theorem build_events (files : FileSystem) (project : Option Path) (includeBuiltin : Bool)
    (extra : List Path) :
    let result := build files project includeBuiltin extra
    ∃ order, IsLoadOrder files project extra order ∧
      (∀ other, IsLoadOrder files project extra other → other = order) ∧
      ((∃ table parts, result.value = .ok table ∧
          List.Forall₂ (fun path part => Gives files path (.ok part)) order parts ∧
          result.events.map Event.record = filesRecords order parts ∧
          (result.events.map Event.rulesLoaded).sum +
            (if includeBuiltin then RuleTable.builtin.size else 0) = table.size) ∨
        ∃ failed before parts after last, result.value = .error failed ∧
          order = before ++ failed.path :: after ∧
          List.Forall₂ (fun path part => Gives files path (.ok part)) before parts ∧
          Gives files failed.path (.error failed.error) ∧
          result.events.map Event.record = filesRecords before parts ++ last ∧
          ((∃ text table, files.HoldsText failed.path text ∧
              RuleTable.ofToml text = .ok table ∧
              failed.error = .rejected failed.path table.errors ∧
              last = (table.issuesOf .warning).map (warningRecord failed.path)) ∨
            (∀ text table, files.HoldsText failed.path text →
              RuleTable.ofToml text ≠ .ok table) ∧ last = [])) := by
  intro result
  have isOrder := isLoadOrder_paths files project extra
  refine ⟨paths files project extra, isOrder, fun _ isOther => isOther.eq isOrder, ?_⟩
  cases outcome : result.value with
  | ok table =>
      left
      rcases extend_value_ok_iff.1 outcome with ⟨parts, all, same⟩
      have events : result.events = filesEvents (paths files project extra) parts := by
        have whole := extend_events_append all (base includeBuiltin) []
        rw [List.append_nil] at whole
        exact whole.trans (List.append_nil _)
      refine ⟨table, parts, rfl, all, ?records, ?count⟩
      case records => rw [events, record_filesEvents]
      case count =>
        have builtin : (base includeBuiltin).size =
            if includeBuiltin then RuleTable.builtin.size else 0 := by
          cases includeBuiltin <;> rfl
        rw [events, rulesLoaded_filesEvents all, ← builtin, size_of_parts same, Nat.add_comm]
  | error failed =>
      right
      rcases extend_value_error_iff.1 outcome with ⟨before, after, split, tables, fails⟩
      rcases exists_parts_iff.2 tables with ⟨parts, all⟩
      have events : result.events =
          filesEvents before parts ++ (RuleFile.loadChecked files failed.path).events := by
        have whole := extend_events_append all (base includeBuiltin) (failed.path :: after)
        rw [← split, extend_events_of_error fails] at whole
        exact whole
      refine ⟨failed, before, parts, after,
        (RuleFile.loadChecked files failed.path).events.map Event.record, rfl, split, all, fails,
        ?records, ?last⟩
      case records => rw [events, List.map_append, record_filesEvents]
      case last =>
        rcases loadChecked_events_of_error fails with
          ⟨text, table, found, decoded, refused, doubts⟩ | ⟨undecoded, none⟩
        · left
          refine ⟨text, table, found, decoded, refused, ?_⟩
          rw [doubts, record_doubts]
        · right
          exact ⟨undecoded, congrArg (List.map Event.record) none⟩

end EffectiveTable

end DeviceFlags
