import DeviceFlags.Files.Path

/-!
# File systems

What the program can learn about files: whether a path leads to a file or a
directory, the bytes of the file unless it cannot be read, and the names in the
directory.
-/

namespace DeviceFlags

/-- A name in a directory.  Names are bytes, and not all bytes are text. -/
inductive FileName where
  | text (name : String)
  | bytes (name : List UInt8)
  deriving DecidableEq, Repr

/-- What a path leads to. -/
inductive Entry where
  | file (content : ByteArray)
  /-- A file that cannot be read, in the words of the system. -/
  | barred (reason : String)
  /-- The names are listed in no particular order. -/
  | directory (names : List FileName)

/-- What every path leads to. -/
structure FileSystem where
  entry? : Path → Option Entry
  /-- A directory lists a name once. -/
  names_nodup : ∀ path names, entry? path = some (.directory names) → names.Nodup

/-- Dropping repetitions leaves none. -/
theorem nodup_eraseDups {α : Type} [BEq α] [LawfulBEq α] :
    (elements : List α) → elements.eraseDups.Nodup
  | [] => by simp
  | first :: rest => by
      rw [List.eraseDups_cons, List.nodup_cons]
      refine ⟨?_, nodup_eraseDups _⟩
      simp [List.mem_eraseDups]
termination_by elements => elements.length
decreasing_by
  exact Nat.lt_succ_of_le (List.length_filter_le _ _)

/-- An entry that lists a name once. -/
def Entry.distinct : Entry → Entry
  | .directory names => .directory names.eraseDups
  | entry => entry

namespace FileSystem

/-- The file system in which some paths lead to given entries, the first for
each path, and other paths lead nowhere. -/
def ofEntries (entries : List (Path × Entry)) : FileSystem where
  entry? path := (entries.lookup path).map Entry.distinct
  names_nodup path names found := by
    obtain ⟨entry, _, distinct⟩ := Option.map_eq_some_iff.1 found
    cases entry with
    | file content => cases distinct
    | barred reason => cases distinct
    | directory listed =>
        cases distinct
        exact nodup_eraseDups listed

/-- Whether a path leads to a file, be it one that can be read or not. -/
def isFile (files : FileSystem) (path : Path) : Bool :=
  match files.entry? path with
  | some (.file _) => true
  | some (.barred _) => true
  | _ => false

/-- The names in the directory that a path leads to; none if it leads
elsewhere. -/
def list (files : FileSystem) (path : Path) : List FileName :=
  match files.entry? path with
  | some (.directory names) => names
  | _ => []

end FileSystem

/-- Why a file gives no text. -/
inductive FileError where
  /-- Nothing is there. -/
  | absent
  /-- The file there cannot be read, in the words of the system. -/
  | barred (reason : String)
  /-- A directory is there. -/
  | directory
  /-- The bytes are not UTF-8. -/
  | notText
  deriving DecidableEq, Repr

/-- The description of an error. -/
def FileError.message : FileError → String
  | .absent => "No such file or directory (os error 2)"
  | .barred reason => reason
  | .directory => "Is a directory (os error 21)"
  | .notText => "stream did not contain valid UTF-8"

/-- The text of a file. -/
def FileSystem.readText (files : FileSystem) (path : Path) : Except FileError String :=
  match files.entry? path with
  | none => .error .absent
  | some (.barred reason) => .error (.barred reason)
  | some (.directory _) => .error .directory
  | some (.file content) =>
      match String.fromUTF8? content with
      | none => .error .notText
      | some text => .ok text

end DeviceFlags
