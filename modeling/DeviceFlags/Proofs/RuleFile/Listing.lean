import DeviceFlags.Files.FileTree
import DeviceFlags.Proofs.RuleFile.Discovery
import DeviceFlags.Proofs.Text.ByteOrder

/-!
# Which rule files a project has

The rule files of a project are the names in its directory for rule files that
have the ending, whatever is stored under them.  They are listed by what stands
before the ending, in the order of the bytes.
-/

namespace DeviceFlags

namespace FileTree

theorem nextName?_eq_some_iff {way within : List FileName} {name : FileName} :
    nextName? way within = some name ↔ ∃ below, within = way ++ name :: below := by
  induction way generalizing within with
  | nil => cases within <;> simp [nextName?, eq_comm]
  | cons first way ih =>
      cases within with
      | nil => simp [nextName?]
      | cons other within =>
          rw [nextName?]
          split
          case isTrue same => simp [ih, same]
          case isFalse different => simp [Ne.symm different]

theorem mem_namesBelow {tree : FileTree} {way : List FileName} {name : FileName} :
    name ∈ tree.namesBelow way ↔
      ∃ below content, (way ++ name :: below, content) ∈ tree.contents := by
  simp only [namesBelow, List.mem_filterMap, nextName?_eq_some_iff]
  constructor
  · rintro ⟨⟨_, content⟩, stored, below, rfl⟩
    exact ⟨below, content, stored⟩
  · rintro ⟨below, content, stored⟩
    exact ⟨_, stored, below, rfl⟩

/-- A directory has the names that something is stored under. -/
theorem mem_of_at? {tree : FileTree} {way names : List FileName}
    (found : tree.at? way = some (.directory names)) {name : FileName} :
    name ∈ names ↔ ∃ below content, (way ++ name :: below, content) ∈ tree.contents := by
  have listed : names = (tree.namesBelow way).eraseDups := by
    simp only [at?] at found
    split at found
    · cases found
    · cases found
      rfl
    · split at found
      · cases found
      · cases found
        rfl
  rw [listed, List.mem_eraseDups, mem_namesBelow]

end FileTree

namespace RuleFile

variable {files other : FileSystem} {project : Path} {names names' : List FileName}

theorem AreStems.mem_iff {stems : List String} (areStems : AreStems files project stems)
    (found : files.entry? (project.join "rules") = some (.directory names)) {stem : String} :
    stem ∈ stems ↔ .text (stem ++ ".rules.toml") ∈ names := by
  simp only [areStems.complete, found, Option.some.injEq, Entry.directory.injEq, exists_eq_left']

theorem discover_of_no_directory
    (none : ∀ names, files.entry? (project.join "rules") ≠ some (.directory names)) :
    discover files project = [] := by
  rcases exists_areStems files project with ⟨stems, areStems, discovered⟩
  have empty : stems = [] := by
    apply List.eq_nil_iff_forall_not_mem.2
    intro stem member
    rcases (areStems.complete stem).1 member with ⟨names, found, -⟩
    exact none names found
  rw [discovered, empty, List.map_nil]

theorem mem_discover_iff
    (found : files.entry? (project.join "rules") = some (.directory names))
    {stem : String} {path : Path} :
    (stem, path) ∈ discover files project ↔
      .text (stem ++ ".rules.toml") ∈ names ∧ path = pathOf project stem := by
  rcases exists_areStems files project with ⟨stems, areStems, discovered⟩
  rw [discovered, List.mem_map, ← areStems.mem_iff found]
  constructor
  · rintro ⟨_, member, same⟩
    cases same
    exact ⟨member, rfl⟩
  · rintro ⟨member, rfl⟩
    exact ⟨stem, member, rfl⟩

theorem ascending_discover (files : FileSystem) (project : Path) :
    ((discover files project).map (·.1)).Pairwise (· < ·) := by
  rcases exists_areStems files project with ⟨stems, areStems, discovered⟩
  have same : (discover files project).map (·.1) = stems := by
    rw [discovered, List.map_map]
    exact List.map_id' stems
  rw [same]
  exact areStems.ascending

/-- Only the names with the ending have an influence, and not their order. -/
theorem discover_congr
    (found : files.entry? (project.join "rules") = some (.directory names))
    (found' : other.entry? (project.join "rules") = some (.directory names'))
    (same : ∀ stem, .text (stem ++ ".rules.toml") ∈ names' ↔
      .text (stem ++ ".rules.toml") ∈ names) :
    discover other project = discover files project := by
  rcases exists_areStems files project with ⟨stems, areStems, discovered⟩
  rcases exists_areStems other project with ⟨stems', areStems', discovered'⟩
  have listed : stems' = stems := by
    apply areStems'.ascending.eq_of_mem_iff areStems.ascending
    intro stem
    rw [areStems'.mem_iff found', areStems.mem_iff found, same]
  rw [discovered, discovered', listed]

/-- A project without a directory for rule files has none.  Otherwise its rule
files are the names in this directory that are text and have the ending, each
once, with the path that leads there; in a tree it makes no difference whether a
file or a directory is stored under the name.  What stands before the ending
ascends in the order of the bytes.  Neither the order in which the directory
lists its names nor any other name in it makes a difference. -/
theorem discover_exact (files : FileSystem) (project : Path) :
    ((∀ names, files.entry? (project.join "rules") ≠ some (.directory names)) →
        discover files project = []) ∧
      (∀ names, files.entry? (project.join "rules") = some (.directory names) →
        (∀ stem path, (stem, path) ∈ discover files project ↔
          .text (stem ++ ".rules.toml") ∈ names ∧ path = pathOf project stem) ∧
        ∀ (other : FileSystem) (names' : List FileName),
          other.entry? (project.join "rules") = some (.directory names') →
          (∀ stem, .text (stem ++ ".rules.toml") ∈ names' ↔
            .text (stem ++ ".rules.toml") ∈ names) →
          discover other project = discover files project) ∧
      ((discover files project).map (·.1)).Pairwise
        (fun first second => Text.bytes first < Text.bytes second) ∧
      ∀ (tree : FileTree) (workingDirectory way names : List FileName),
        tree.way? workingDirectory (project.join "rules") = some way →
        tree.at? way = some (.directory names) →
        ∀ stem path, (stem, path) ∈ discover (tree.toFileSystem workingDirectory) project ↔
          (∃ below content,
            (way ++ .text (stem ++ ".rules.toml") :: below, content) ∈ tree.contents) ∧
          path = pathOf project stem := by
  refine ⟨discover_of_no_directory, ?directory, ?ascending, ?tree⟩
  case directory =>
    intro names found
    exact ⟨fun _ _ => mem_discover_iff found, fun _ _ => discover_congr found⟩
  case ascending => exact (ascending_discover files project).imp Text.lt_iff_bytes_lt.1
  case tree =>
    intro tree workingDirectory way names followed found stem path
    have entry : FileSystem.entry? (tree.toFileSystem workingDirectory)
        (project.join "rules") = some (.directory names) := by
      have leads : tree.entry? workingDirectory (project.join "rules") = tree.at? way := by
        unfold FileTree.entry?
        rw [followed, Option.bind_some]
      exact leads.trans found
    rw [mem_discover_iff entry, FileTree.mem_of_at? found]

/-- A name that is the ending alone counts, and the order of the names does not. -/
theorem discover_exact_edge_names :
    let project : Path := ⟨"p"⟩
    let names : List FileName :=
      [.text "a.rules.toml", .bytes [0xFF], .text "a-b.rules.toml", .text ".rules.toml"]
    let files := FileSystem.ofEntries [(⟨"p/rules"⟩, .directory names)]
    let other := FileSystem.ofEntries [(⟨"p/rules"⟩, .directory names.reverse)]
    files.entry? (project.join "rules") = some (.directory names) ∧
      ("", ⟨"p/rules/.rules.toml"⟩) ∈ discover files project ∧
      discover other project = discover files project := by
  intro project names files other
  have joined : project.join "rules" = ⟨"p/rules"⟩ := by decide
  have found : files.entry? (project.join "rules") = some (.directory names) := by
    have distinct : names.eraseDups = names := by decide
    rw [joined]
    exact congrArg (some ∘ Entry.directory) distinct
  have found' : other.entry? (project.join "rules") = some (.directory names.reverse) := by
    have distinct : names.reverse.eraseDups = names.reverse := by decide
    rw [joined]
    exact congrArg (some ∘ Entry.directory) distinct
  rcases (discover_exact files project).2.1 names found with ⟨members, unchanged⟩
  refine ⟨found, (members "" _).2 ⟨by decide, by decide⟩, ?_⟩
  exact unchanged other names.reverse found' fun stem => List.mem_reverse

end RuleFile

end DeviceFlags
