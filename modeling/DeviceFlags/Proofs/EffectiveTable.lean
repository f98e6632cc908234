import DeviceFlags.EffectiveTable
import DeviceFlags.Proofs.Event
import DeviceFlags.Proofs.RuleFile.Discovery
import DeviceFlags.Proofs.RuleFile.Outcome
import Mathlib.Data.List.Forall2

/-!
# What the effective table holds

The files are loaded in one order, and each is judged by itself.  If all of
them give tables, the effective table is the base with these tables behind it,
and it has no error since no part has one.  Otherwise the first file that gives
none decides.
-/

namespace DeviceFlags.EffectiveTable

open RuleFile (Gives AreStems pathOf)

/-- The order in which rule files are loaded: the files of the project by their
stems, and then the extra ones as they were named. -/
def IsLoadOrder (files : FileSystem) (project : Option Path) (extra order : List Path) : Prop :=
  match project with
  | none => order = extra
  | some directory =>
      ∃ stems, AreStems files directory stems ∧ order = stems.map (pathOf directory) ++ extra

theorem isLoadOrder_paths (files : FileSystem) (project : Option Path) (extra : List Path) :
    IsLoadOrder files project extra (paths files project extra) := by
  cases project with
  | none => rfl
  | some directory =>
      rcases RuleFile.exists_areStems files directory with ⟨stems, areStems, discovered⟩
      refine ⟨stems, areStems, ?_⟩
      rw [paths, discovered, List.map_map]
      rfl

theorem IsLoadOrder.eq {files : FileSystem} {project : Option Path} {extra order other : List Path}
    (first : IsLoadOrder files project extra order)
    (second : IsLoadOrder files project extra other) : order = other := by
  cases project with
  | none => exact first.trans second.symm
  | some directory =>
      rcases first with ⟨stems, areStems, rfl⟩
      rcases second with ⟨others, areOthers, rfl⟩
      rw [areStems.eq areOthers]

section Extend

variable {files : FileSystem} {table : RuleTable} {path : Path} {rest : List Path}

theorem extend_value_of_table {added : RuleTable} (gives : Gives files path (.ok added)) :
    (extend files table (path :: rest)).value = (extend files (table ++ added) rest).value := by
  rw [← RuleFile.loadChecked_value_iff] at gives
  exact Logged.value_andThen_of_ok (Logged.value_mapError_ok_iff.2 gives)

theorem extend_value_of_error {error : RuleFileError} (gives : Gives files path (.error error)) :
    (extend files table (path :: rest)).value = .error ⟨path, error⟩ := by
  rw [← RuleFile.loadChecked_value_iff] at gives
  exact Logged.value_andThen_of_error (Logged.value_mapError_of_error gives)

end Extend

/-- Extending a table puts the tables of the files behind it. -/
theorem extend_value_ok_iff {files : FileSystem} {table result : RuleTable}
    {pending : List Path} :
    (extend files table pending).value = .ok result ↔
      ∃ parts, List.Forall₂ (fun path part => Gives files path (.ok part)) pending parts ∧
        result.rules = table.rules ++ parts.flatMap (·.rules) := by
  induction pending generalizing table with
  | nil =>
      rw [extend, Logged.silent, Except.ok.injEq]
      constructor
      · intro same
        exact ⟨[], .nil, by rw [same, List.flatMap_nil, List.append_nil]⟩
      · intro holds
        rcases holds with ⟨parts, all, same⟩
        cases all
        rw [List.flatMap_nil, List.append_nil] at same
        cases table
        cases result
        exact congrArg RuleTable.mk same.symm
  | cons path rest ih =>
      rcases RuleFile.exists_gives files path with ⟨outcome, gives⟩
      cases outcome with
      | error error =>
          rw [extend_value_of_error gives]
          constructor
          · intro impossible
            cases impossible
          · intro holds
            rcases holds with ⟨parts, all, same⟩
            cases all with
            | cons head tail => cases gives.eq head
      | ok added =>
          rw [extend_value_of_table gives, ih]
          constructor
          · intro holds
            rcases holds with ⟨parts, all, same⟩
            refine ⟨added :: parts, .cons gives all, ?_⟩
            rw [same, RuleTable.rules_append, List.append_assoc, List.flatMap_cons]
          · intro holds
            rcases holds with ⟨parts, all, same⟩
            cases all with
            | @cons _ part _ parts head tail =>
                cases gives.eq head
                refine ⟨parts, tail, ?_⟩
                rw [same, RuleTable.rules_append, List.append_assoc, List.flatMap_cons]

/-- Extending a table fails with the first file that gives no table. -/
theorem extend_value_error_iff {files : FileSystem} {table : RuleTable} {failed : UnusableFile}
    {pending : List Path} :
    (extend files table pending).value = .error failed ↔
      ∃ before after, pending = before ++ failed.path :: after ∧
        (∀ path ∈ before, ∃ part, Gives files path (.ok part)) ∧
        Gives files failed.path (.error failed.error) := by
  induction pending generalizing table with
  | nil =>
      constructor
      · intro impossible
        cases impossible
      · intro holds
        rcases holds with ⟨before, after, split, -⟩
        cases before <;> cases split
  | cons path rest ih =>
      rcases RuleFile.exists_gives files path with ⟨outcome, gives⟩
      cases outcome with
      | error error =>
          rw [extend_value_of_error gives]
          constructor
          · intro same
            cases same
            exact ⟨[], rest, rfl, nofun, gives⟩
          · intro holds
            rcases holds with ⟨before, after, split, tables, fails⟩
            cases before with
            | nil =>
                cases split
                cases gives.eq fails
                rfl
            | cons first before =>
                cases split
                rcases tables _ List.mem_cons_self with ⟨part, table⟩
                cases gives.eq table
      | ok added =>
          rw [extend_value_of_table gives, ih]
          constructor
          · intro holds
            rcases holds with ⟨before, after, split, tables, fails⟩
            refine ⟨path :: before, after, congrArg (path :: ·) split, ?_, fails⟩
            exact List.forall_mem_cons.2 ⟨⟨added, gives⟩, tables⟩
          · intro holds
            rcases holds with ⟨before, after, split, tables, fails⟩
            cases before with
            | nil =>
                cases split
                cases gives.eq fails
            | cons first before =>
                cases split
                exact ⟨before, after, rfl, (List.forall_mem_cons.1 tables).2, fails⟩

theorem exists_parts_iff {files : FileSystem} {order : List Path} :
    (∃ parts, List.Forall₂ (fun path part => Gives files path (.ok part)) order parts) ↔
      ∀ path ∈ order, ∃ part, Gives files path (.ok part) := by
  induction order with
  | nil => exact ⟨nofun, fun _ => ⟨[], .nil⟩⟩
  | cons path rest ih =>
      rw [List.forall_mem_cons, ← ih]
      constructor
      · intro holds
        rcases holds with ⟨parts, all⟩
        cases all with
        | cons head tail => exact ⟨⟨_, head⟩, ⟨_, tail⟩⟩
      · intro holds
        rcases holds with ⟨⟨part, head⟩, parts, tail⟩
        exact ⟨part :: parts, .cons head tail⟩

/-- There is an effective table exactly if each file gives a table. -/
theorem exists_build_ok_iff_gives {files : FileSystem} {project : Option Path}
    {extra order : List Path} (isOrder : IsLoadOrder files project extra order)
    (includeBuiltin : Bool) :
    (∃ table, (build files project includeBuiltin extra).value = .ok table) ↔
      ∀ path ∈ order, ∃ part, Gives files path (.ok part) := by
  rw [isOrder.eq (isLoadOrder_paths files project extra), ← exists_parts_iff]
  constructor
  · intro succeeds
    rcases succeeds with ⟨table, built⟩
    rcases extend_value_ok_iff.1 built with ⟨parts, all, -⟩
    exact ⟨parts, all⟩
  · intro tables
    rcases tables with ⟨parts, all⟩
    exact ⟨⟨_⟩, extend_value_ok_iff.2 ⟨parts, all, rfl⟩⟩

theorem rules_base (includeBuiltin : Bool) :
    (base includeBuiltin).rules = if includeBuiltin then RuleTable.builtin.rules else [] := by
  cases includeBuiltin <;> rfl

theorem resolve_base (includeBuiltin : Bool) (device : String) :
    (base includeBuiltin).resolve device =
      if includeBuiltin then RuleTable.builtin.resolve device else [] := by
  cases includeBuiltin <;> rfl

theorem base_usable (includeBuiltin : Bool) :
    ∀ rule ∈ (base includeBuiltin).rules, rule.IsUsable := by
  cases includeBuiltin with
  | true => exact RuleTable.builtin_usable
  | false => exact nofun

theorem parts_usable {files : FileSystem} {order : List Path} {parts : List RuleTable}
    (all : List.Forall₂ (fun path part => Gives files path (.ok part)) order parts) :
    ∀ part ∈ parts, ∀ rule ∈ part.rules, rule.IsUsable := by
  induction all with
  | nil => exact nofun
  | cons head tail ih => exact List.forall_mem_cons.2 ⟨head.rules_usable, ih⟩

/-- Since each file is checked, the whole table needs no check. -/
theorem build_usable {files : FileSystem} {project : Option Path} {includeBuiltin : Bool}
    {extra : List Path} {table : RuleTable}
    (built : (build files project includeBuiltin extra).value = .ok table) :
    ∀ rule ∈ table.rules, rule.IsUsable := by
  rcases extend_value_ok_iff.1 built with ⟨parts, all, same⟩
  intro rule member
  rw [same, List.mem_append, List.mem_flatMap] at member
  rcases member with inBase | ⟨part, among, inPart⟩
  · exact base_usable includeBuiltin rule inBase
  · exact parts_usable all part among rule inPart

theorem resolve_concat {table first : RuleTable} {parts : List RuleTable}
    (same : table.rules = first.rules ++ parts.flatMap (·.rules)) (device : String) :
    table.resolve device = first.resolve device ++ parts.flatMap (·.resolve device) := by
  simp only [RuleTable.resolve, same, List.filter_append, List.map_append, List.filter_flatMap,
    List.map_flatMap]

/-- The files are loaded in one order.  The effective table exists exactly if
each file gives a table; then it is made of the built-in rules, unless they are
left out, and of the rules of each file in that order, and has no error.
Otherwise the outcome is that of the first file that gives no table. -/
theorem build_correct (files : FileSystem) (project : Option Path) (includeBuiltin : Bool)
    (extra : List Path) :
    ∃ order, IsLoadOrder files project extra order ∧
      (∀ other, IsLoadOrder files project extra other → other = order) ∧
      ((∃ table, (build files project includeBuiltin extra).value = .ok table) ↔
        ∀ path ∈ order, ∃ part, Gives files path (.ok part)) ∧
      (∀ table, (build files project includeBuiltin extra).value = .ok table →
        (∃ parts, List.Forall₂ (fun path part => Gives files path (.ok part)) order parts ∧
          table.rules =
            (if includeBuiltin then RuleTable.builtin.rules else []) ++
              parts.flatMap (·.rules) ∧
          ∀ device, table.resolve device =
            (if includeBuiltin then RuleTable.builtin.resolve device else []) ++
              parts.flatMap (·.resolve device)) ∧
        (∀ issue ∈ table.issues, issue.severity ≠ .error) ∧
        table.resolve "" = []) ∧
      ∀ failed, (build files project includeBuiltin extra).value = .error failed ↔
        ∃ before after, order = before ++ failed.path :: after ∧
          (∀ path ∈ before, ∃ part, Gives files path (.ok part)) ∧
          Gives files failed.path (.error failed.error) := by
  have isOrder := isLoadOrder_paths files project extra
  refine ⟨paths files project extra, isOrder, ?unique,
    exists_build_ok_iff_gives isOrder includeBuiltin, ?holds, ?fails⟩
  case unique =>
    intro other isOther
    exact isOther.eq isOrder
  case holds =>
    intro table built
    have usable := build_usable built
    refine ⟨?_, table.no_error_issues_iff.2 usable, RuleTable.resolve_empty_device usable⟩
    rcases extend_value_ok_iff.1 built with ⟨parts, all, same⟩
    refine ⟨parts, all, ?rules, ?flags⟩
    case rules => rw [same, rules_base]
    case flags =>
      intro device
      rw [resolve_concat same, resolve_base]
  case fails =>
    intro failed
    exact extend_value_error_iff

end DeviceFlags.EffectiveTable
