import DeviceFlags.RuleFile
import Mathlib.Data.List.Sort
import Mathlib.Data.String.Basic

/-!
# Discovery of rule files

The discovered files are told from the names in the directory alone: one stem
for each name with the ending, in strictly ascending order.  Such a list is
determined by its members, so the order of the names in the directory has no
influence.
-/

namespace DeviceFlags.RuleFile

/-- The path of the rule file of a project with a stem. -/
def pathOf (project : Path) (stem : String) : Path :=
  (project.join "rules").join (stem ++ ".rules.toml")

/-- The stems of the rule files of a project. -/
structure AreStems (files : FileSystem) (project : Path) (stems : List String) : Prop where
  ascending : stems.Pairwise (· < ·)
  complete : ∀ stem, stem ∈ stems ↔
    ∃ names, files.entry? (project.join "rules") = some (.directory names) ∧
      .text (stem ++ ".rules.toml") ∈ names

theorem toList_append_ending (stem : String) :
    (stem ++ ".rules.toml").toList = stem.toList ++ ending :=
  String.toList_append

theorem stem?_append (stem : String) : stem? (stem ++ ".rules.toml") = some stem := by
  have kept : (stem.toList ++ ending).length - ending.length = stem.toList.length := by
    rw [List.length_append]
    exact Nat.add_sub_cancel _ _
  simp only [stem?, toList_append_ending, kept]
  rw [List.drop_left, List.take_left, if_pos rfl, String.ofList_toList]

theorem stem?_eq_some_iff {name stem : String} :
    stem? name = some stem ↔ name = stem ++ ".rules.toml" := by
  constructor
  · intro found
    simp only [stem?] at found
    split at found
    · next ends =>
        cases found
        apply String.toList_inj.1
        rw [toList_append_ending, String.toList_ofList]
        exact ((congrArg _ ends.symm).trans (List.take_append_drop _ _)).symm
    · cases found
  · rintro rfl
    exact stem?_append stem

theorem mem_stems {names : List FileName} {stem : String} :
    stem ∈ stems names ↔ .text (stem ++ ".rules.toml") ∈ names := by
  rw [stems, List.mem_filterMap]
  constructor
  · rintro ⟨name, member, found⟩
    cases name with
    | text name =>
        rw [stem?_eq_some_iff] at found
        subst found
        exact member
    | bytes name => cases found
  · intro member
    exact ⟨_, member, stem?_eq_some_iff.2 rfl⟩

/-- Different names have different stems. -/
theorem nodup_stems {names : List FileName} (nodup : names.Nodup) : (stems names).Nodup := by
  refine List.Pairwise.filterMap _ ?_ nodup
  intro first second different stem found other found' equal
  subst equal
  cases first with
  | bytes name => cases found
  | text name =>
      cases second with
      | bytes name => cases found'
      | text name' =>
          rw [stem?_eq_some_iff] at found found'
          exact different (by rw [found, found'])

theorem mem_list {files : FileSystem} {path : Path} {name : FileName} :
    name ∈ files.list path ↔
      ∃ names, files.entry? path = some (.directory names) ∧ name ∈ names := by
  unfold FileSystem.list
  cases files.entry? path with
  | none => simp
  | some entry =>
      cases entry with
      | file content => simp
      | barred reason => simp
      | directory names => simp

theorem nodup_list (files : FileSystem) (path : Path) : (files.list path).Nodup := by
  unfold FileSystem.list
  cases entry : files.entry? path with
  | none => exact List.nodup_nil
  | some found =>
      cases found with
      | file content => exact List.nodup_nil
      | barred reason => exact List.nodup_nil
      | directory names => exact files.names_nodup path names entry

/-- Sorting different texts puts them in strictly ascending order. -/
theorem ascending_mergeSort {texts : List String} (nodup : texts.Nodup) :
    (texts.mergeSort fun first second => first ≤ second).Pairwise (· < ·) := by
  have sorted : (texts.mergeSort fun first second => first ≤ second).Pairwise
      (fun first second => decide (first ≤ second) = true) := by
    apply List.pairwise_mergeSort
    · intro first second third
      simp only [decide_eq_true_eq]
      exact String.le_trans
    · intro first second
      simpa only [Bool.or_eq_true, decide_eq_true_eq] using String.le_total first second
  have different := (List.mergeSort_perm texts fun first second => first ≤ second).nodup_iff.2 nodup
  refine sorted.imp₂ ?_ different
  intro first second le ne
  apply String.not_le.1
  intro ge
  exact ne (String.le_antisymm (of_decide_eq_true le) ge)

/-- Discovery lists the rule files by their stems. -/
theorem exists_areStems (files : FileSystem) (project : Path) :
    ∃ stems, AreStems files project stems ∧
      discover files project = stems.map fun stem => (stem, pathOf project stem) := by
  refine ⟨_, ⟨ascending_mergeSort (nodup_stems (nodup_list files _)), ?_⟩, rfl⟩
  intro stem
  rw [List.mem_mergeSort, mem_stems, mem_list, directoryName]

theorem AreStems.eq {files : FileSystem} {project : Path} {stems others : List String}
    (first : AreStems files project stems) (second : AreStems files project others) :
    stems = others := by
  apply first.ascending.eq_of_mem_iff second.ascending
  intro stem
  rw [first.complete, second.complete]

end DeviceFlags.RuleFile
