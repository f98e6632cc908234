import DeviceFlags.Files.FileSystem

/-!
# File trees

A file system held in memory.  A file is stored under the names of the
directories that lead to it; a directory exists if it is stored itself or if
something is stored below it.  Paths are followed name by name: every name but
the last must be that of a directory.  A path that is empty, too long or holds a
zero character is not followed at all.
-/

namespace DeviceFlags

/-- What is stored in a tree. -/
inductive Content where
  | file (bytes : ByteArray)
  | directory

/-- The files and directories of a machine, each under the names that lead to
it from the root.  Of two under the same names the later counts. -/
structure FileTree where
  contents : List (List FileName × Content)

namespace FileTree

/-- The name behind the first few, if the way begins with them. -/
def nextName? : (way within : List FileName) → Option FileName
  | [], name :: _ => some name
  | name :: way, name' :: within => if name = name' then nextName? way within else none
  | _, [] => none

/-- The names directly below a way. -/
def namesBelow (tree : FileTree) (way : List FileName) : List FileName :=
  tree.contents.filterMap fun (stored, _) => nextName? way stored

/-- What a way leads to. -/
def at? (tree : FileTree) (way : List FileName) : Option Entry :=
  let names := (tree.namesBelow way).eraseDups
  match tree.contents.reverse.lookup way with
  | some (.file bytes) => some (.file bytes)
  | some .directory => some (.directory names)
  | none => if names.isEmpty && !way.isEmpty then none else some (.directory names)

/-- Whether a way leads to a directory. -/
def isDirectory (tree : FileTree) (way : List FileName) : Bool :=
  match tree.at? way with
  | some (.directory _) => true
  | _ => false

/-- Follows segments from a directory.  Two points lead to the directory above,
at the root to the root itself. -/
def follow (tree : FileTree) (way : List FileName) : List String → Option (List FileName)
  | [] => some way
  | segment :: rest =>
      if !tree.isDirectory way then none
      else if segment = "" ∨ segment = "." then follow tree way rest
      else if segment = ".." then follow tree way.dropLast rest
      else follow tree (way ++ [.text segment]) rest

/-- The bytes of a path together with the zero byte behind it are at most as
many. -/
def pathLimit : Nat := 4096

/-- Whether a path is followed: it is not empty, it is within the limit as it
was written, and it holds no zero character. -/
def isFollowed (path : Path) : Bool :=
  path.text ≠ "" && path.text.utf8ByteSize < pathLimit && !path.text.toList.contains '\x00'

/-- The way to what a path leads to, from a working directory.  A slash in front
leads to the root. -/
def way? (tree : FileTree) (workingDirectory : List FileName) (path : Path) :
    Option (List FileName) :=
  if isFollowed path then
    let start := if path.text.toList.head? = some '/' then [] else workingDirectory
    tree.follow start ((Path.split path.text.toList).map String.ofList)
  else none

/-- What a path leads to, from a working directory. -/
def entry? (tree : FileTree) (workingDirectory : List FileName) (path : Path) : Option Entry :=
  (tree.way? workingDirectory path).bind tree.at?

theorem names_nodup_of_at? {tree : FileTree} {way names : List FileName}
    (found : tree.at? way = some (.directory names)) : names.Nodup := by
  simp only [at?] at found
  split at found
  · cases found
  · cases found
    exact nodup_eraseDups _
  · split at found
    · cases found
    · cases found
      exact nodup_eraseDups _

/-- The tree as a file system, seen from a working directory. -/
def toFileSystem (tree : FileTree) (workingDirectory : List FileName) : FileSystem where
  entry? := tree.entry? workingDirectory
  names_nodup path names found := by
    obtain ⟨way, _, found⟩ := Option.bind_eq_some_iff.1 found
    exact names_nodup_of_at? found

end FileTree

end DeviceFlags
