import DeviceFlags.RuleFile

/-!
# The effective rule table

The table that holds in a project: the built-in rules unless they are left out,
then the rules of the project's own files in the order of their names, then
those of the files named on top, in the order in which they were named.
-/

namespace DeviceFlags

/-- A rule file that could not be used. -/
structure UnusableFile where
  path : Path
  error : RuleFileError

namespace EffectiveTable

/-- The rule files of a project, if there is one, and then the extra ones. -/
def paths (files : FileSystem) (project : Option Path) (extra : List Path) : List Path :=
  (match project with
    | none => []
    | some directory => (RuleFile.discover files directory).map (·.2)) ++ extra

/-- Adds the rules of each file in turn.  The first file that cannot be used
ends the work. -/
def extend (files : FileSystem) (table : RuleTable) :
    (pending : List Path) → Logged Event (Except UnusableFile RuleTable)
  | [] => .silent (.ok table)
  | path :: rest =>
      ((RuleFile.loadChecked files path).mapError (UnusableFile.mk path)).andThen fun added =>
        let others := extend files (table ++ added) rest
        ⟨others.value, .fileLoaded path.text added.size :: others.events⟩

/-- The rules that come before those of any file. -/
def base (includeBuiltin : Bool) : RuleTable :=
  if includeBuiltin then RuleTable.builtin else ∅

/-- The effective table. -/
def build (files : FileSystem) (project : Option Path) (includeBuiltin : Bool)
    (extra : List Path) : Logged Event (Except UnusableFile RuleTable) :=
  extend files (base includeBuiltin) (paths files project extra)

end EffectiveTable

end DeviceFlags
