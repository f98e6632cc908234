import DeviceFlags.Manifest
import DeviceFlags.Proofs.Files.Upward
import DeviceFlags.Proofs.RuleFile.Outcome

/-!
# The manifest in force

The search for a manifest goes up from a path and ends at the first directory
that has a file of the right name.  That file alone decides: the search gives
its manifest or fails because of it.
-/

namespace DeviceFlags

theorem FileSystem.isFile_eq_true_iff {files : FileSystem} {path : Path} :
    files.isFile path = true ↔
      (∃ content, files.entry? path = some (.file content)) ∨
        ∃ reason, files.entry? path = some (.barred reason) := by
  rw [isFile]
  cases files.entry? path with
  | none => simp
  | some entry =>
      cases entry with
      | file content => simp
      | barred reason => simp
      | directory names => simp

namespace Manifest

/-- A directory has a file with the name of manifests, whatever the file holds and
be it one that can be read or not. -/
def IsIn (files : FileSystem) (directory : Path) : Prop :=
  (∃ content, files.entry? (directory.join "sysgps.toml") = some (.file content)) ∨
    ∃ reason, files.entry? (directory.join "sysgps.toml") = some (.barred reason)

/-- What the search gives when the file in a directory decides. -/
inductive Decides (files : FileSystem) (directory : Path) :
    Except FindError (Option Located) → Prop where
  | barred {reason : String}
      (found : files.entry? (directory.join "sysgps.toml") = some (.barred reason)) :
      Decides files directory
        (.error (.unreadable (directory.join "sysgps.toml") (.barred reason)))
  | notText {content : ByteArray}
      (found : files.entry? (directory.join "sysgps.toml") = some (.file content))
      (bytes : String.fromUTF8? content = none) :
      Decides files directory (.error (.unreadable (directory.join "sysgps.toml") .notText))
  | unfit {text : String} {error : Toml.ReadError}
      (found : files.HoldsText (directory.join "sysgps.toml") text)
      (failed : ofToml text = .error error) :
      Decides files directory (.error (.unfit (directory.join "sysgps.toml") error))
  | manifest {text : String} {manifest : Manifest}
      (found : files.HoldsText (directory.join "sysgps.toml") text)
      (decoded : ofToml text = .ok manifest) :
      Decides files directory (.ok (some ⟨manifest, directory⟩))

variable {files other : FileSystem} {directory : Path}

theorem isFile_iff_isIn : files.isFile (directory.join fileName) = true ↔ IsIn files directory :=
  FileSystem.isFile_eq_true_iff

theorem load_of_holdsText {text : String}
    (found : files.HoldsText (directory.join "sysgps.toml") text) :
    load files directory =
      match ofToml text with
      | .error error => .error (.unfit (directory.join "sysgps.toml") error)
      | .ok manifest => .ok ⟨manifest, directory⟩ := by
  have read := FileSystem.readText_eq_ok_iff.2 found
  cases decoded : ofToml text with
  | error error => simp only [load, fileName, read, decoded]
  | ok manifest => simp only [load, fileName, read, decoded]

/-- Loading decides, and never passes a file over. -/
theorem decides_load (held : IsIn files directory) :
    Decides files directory ((load files directory).map some) := by
  rcases held with ⟨content, found⟩ | ⟨reason, found⟩
  case inr =>
    have failed : load files directory =
        .error (.unreadable (directory.join "sysgps.toml") (.barred reason)) := by
      simp [load, fileName, FileSystem.readText, found]
    rw [failed]
    exact .barred found
  cases bytes : String.fromUTF8? content with
  | none =>
      have failed : load files directory =
          .error (.unreadable (directory.join "sysgps.toml") .notText) := by
        simp [load, fileName, FileSystem.readText, found, bytes]
      rw [failed]
      exact .notText found bytes
  | some text =>
      have holds : files.HoldsText (directory.join "sysgps.toml") text := ⟨content, found, bytes⟩
      cases decoded : ofToml text with
      | error error =>
          rw [load_of_holdsText holds, decoded]
          exact .unfit holds decoded
      | ok manifest =>
          rw [load_of_holdsText holds, decoded]
          exact .manifest holds decoded

theorem Decides.ne_none (decides : Decides files directory (.ok none)) : False := by
  cases decides

theorem load_congr
    (same : other.entry? (directory.join "sysgps.toml") =
      files.entry? (directory.join "sysgps.toml")) :
    load other directory = load files directory := by
  simp only [load, fileName, FileSystem.readText, same]

variable {directories : List Path}

theorem holder?_eq_none_iff :
    holder? files directories = none ↔ ∀ directory ∈ directories, ¬ IsIn files directory := by
  simp only [holder?, List.find?_eq_none, isFile_iff_isIn]

/-- The holder is the nearest directory with a manifest file. -/
theorem holder?_eq_some_iff :
    holder? files directories = some directory ↔
      IsIn files directory ∧
        ∃ before after, directories = before ++ directory :: after ∧
          ∀ nearer ∈ before, ¬ IsIn files nearer := by
  simp only [holder?, List.find?_eq_some_iff_append, isFile_iff_isIn, Bool.not_eq_true',
    ← Bool.not_eq_true]

theorem find_of_holder (start : Path) (holder : holder? files start.upward = some directory) :
    find files start = (load files directory).map some := by
  rw [find, holder]

theorem find_of_none (start : Path) (nobody : holder? files start.upward = none) :
    find files start = .ok none := by
  rw [find, nobody]

/-- The search looks at a path and then at the directories above it one after
another, each the text before with a part less.  It finds nothing exactly if none
of them has a manifest file.  Otherwise the nearest of those that have one
decides, for a manifest or for an error, and what lies farther up makes no
difference. -/
theorem nearest_decides (files : FileSystem) (start : Path) :
    start.upward.map Path.components = start.fronts ∧
      (∀ directory ∈ start.upward, directory.text.toList <+: start.text.toList) ∧
      (∀ before directory after, start.upward = before ++ directory :: after →
        directory.upward = directory :: after) ∧
      (∀ absolute names, (∀ name ∈ names, Path.IsSegment name) → start = .ofNames absolute names →
        start.upward = names.inits.reverse.map (Path.ofNames absolute)) ∧
      (find files start = .ok none ↔ ∀ directory ∈ start.upward, ¬ IsIn files directory) ∧
      ((∃ directory ∈ start.upward, IsIn files directory) →
        ∃ before directory after, start.upward = before ++ directory :: after ∧
          (∀ nearer ∈ before, ¬ IsIn files nearer) ∧
          IsIn files directory ∧
          Decides files directory (find files start) ∧
          ∀ other : FileSystem,
            (∀ seen ∈ before ++ [directory],
              other.entry? (seen.join "sysgps.toml") =
                files.entry? (seen.join "sysgps.toml")) →
            find other start = find files start) := by
  refine ⟨start.map_components_upward, fun _ => Path.prefix_of_mem_upward,
    fun _ _ _ => Path.upward_of_eq_append, ?names, ?none, ?nearest⟩
  case names =>
    rintro absolute names areSegments rfl
    exact Path.upward_ofNames absolute areSegments
  case none =>
    rw [← holder?_eq_none_iff]
    constructor
    · intro nothing
      cases holder : holder? files start.upward with
      | none => rfl
      | some directory =>
          have decides := decides_load (holder?_eq_some_iff.1 holder).1
          rw [← find_of_holder start holder, nothing] at decides
          exact decides.ne_none.elim
    · exact find_of_none start
  case nearest =>
    intro someone
    cases holder : holder? files start.upward with
    | none =>
        rcases someone with ⟨directory, member, held⟩
        exact absurd held (holder?_eq_none_iff.1 holder directory member)
    | some directory =>
        rcases holder?_eq_some_iff.1 holder with ⟨held, before, after, chain, nobody⟩
        refine ⟨before, directory, after, chain, nobody, held, ?_, ?_⟩
        · rw [find_of_holder start holder]
          exact decides_load held
        · intro other same
          rw [List.forall_mem_append, List.forall_mem_singleton] at same
          have holder' : holder? other start.upward = some directory := by
            apply holder?_eq_some_iff.2
            refine ⟨?_, before, after, chain, ?_⟩
            · rwa [IsIn, same.2]
            · intro nearer member
              rw [IsIn, same.1 nearer member]
              exact nobody nearer member
          rw [find_of_holder start holder, find_of_holder start holder', load_congr same.2]

/-- A directory with the name of a manifest is passed over, a file that is no text
is not, whether there is a manifest farther up or none. -/
theorem nearest_decides_no_text :
    let start : Path := ⟨"work/app/src"⟩
    let near : List (Path × Entry) :=
      [(⟨"work/app/src/sysgps.toml"⟩, .directory []),
        (⟨"work/app/sysgps.toml"⟩, .file ⟨#[0xFF]⟩)]
    let files := FileSystem.ofEntries (near ++ [(⟨"work/sysgps.toml"⟩, .file "".toUTF8)])
    find files start = .error (.unreadable ⟨"work/app/sysgps.toml"⟩ .notText) ∧
      find (FileSystem.ofEntries near) start = find files start := by
  intro start near files
  have chain : start.upward = [⟨"work/app/src"⟩, ⟨"work/app"⟩, ⟨"work"⟩, ⟨""⟩] := by decide
  have found : files.entry? ⟨"work/app/sysgps.toml"⟩ = some (.file ⟨#[0xFF]⟩) := rfl
  have bytes : String.fromUTF8? ⟨#[0xFF]⟩ = none := by decide
  have member : (⟨"work/app"⟩ : Path) ∈ start.upward := by simp [chain]
  rcases nearest_decides files start with ⟨-, -, -, -, -, nearestDecides⟩
  rcases nearestDecides ⟨⟨"work/app"⟩, member, .inl ⟨_, found⟩⟩ with
    ⟨before, directory, after, split, nobody, held, decides, unchanged⟩
  have nearest : holder? files start.upward = some directory :=
    holder?_eq_some_iff.2 ⟨held, before, after, split, nobody⟩
  have same : holder? files start.upward = some ⟨"work/app"⟩ := by decide
  cases same.symm.trans nearest
  constructor
  · generalize find files start = outcome at decides
    have noText (text : String) : ¬ files.HoldsText ⟨"work/app/sysgps.toml"⟩ text := by
      intro holds
      rcases holds with ⟨content, file, decoded⟩
      cases found.symm.trans file
      cases bytes.symm.trans decoded
    cases decides with
    | barred found' => cases found.symm.trans found'
    | notText found bytes => rfl
    | unfit found failed => exact absurd found (noText _)
    | manifest found decoded => exact absurd found (noText _)
  · apply unchanged
    intro seen among
    rcases List.mem_append.1 among with earlier | last
    · have upward : seen ∈ start.upward := by
        rw [split]
        exact List.mem_append_left _ earlier
      simp only [chain, List.mem_cons, List.not_mem_nil, or_false] at upward
      rcases upward with rfl | rfl | rfl | rfl
      · rfl
      · rfl
      · exact absurd (.inl ⟨_, rfl⟩) (nobody ⟨"work"⟩ earlier)
      · rfl
    · cases List.mem_singleton.1 last
      rfl

end Manifest

end DeviceFlags
