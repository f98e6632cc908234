import DeviceFlags.Json

/-!
# Flags as build properties

Flags reach a build as the property `cflags` of a module.  The property is
written in the build language, where a string stands between double quotes and
a backslash protects a quote or another backslash.
-/

namespace DeviceFlags

/-- An ordered list of flags.  A flag may occur more than once. -/
structure Flags where
  toList : List String
  deriving DecidableEq, Repr

namespace Flags

instance : EmptyCollection Flags where
  emptyCollection := ⟨[]⟩

/-- Adds a flag after all others. -/
def push (flags : Flags) (flag : String) : Flags :=
  ⟨flags.toList ++ [flag]⟩

/-- The number of flags. -/
def size (flags : Flags) : Nat :=
  flags.toList.length

/-- Whether there is no flag. -/
def isEmpty (flags : Flags) : Bool :=
  flags.toList.isEmpty

/-- The number of characters of each flag. -/
def lengths (flags : Flags) : List Nat :=
  flags.toList.map String.length

/-- The flags as a JSON array. -/
def toJson (flags : Flags) : Json :=
  .ofStrings flags.toList

end Flags

/-- The properties that hooks give to a module. -/
structure Properties where
  cflags : List String
  deriving DecidableEq, Repr

namespace Properties

instance : EmptyCollection Properties where
  emptyCollection := ⟨[]⟩

/-- The flags of the second follow those of the first. -/
instance : Append Properties where
  append first second := ⟨first.cflags ++ second.cflags⟩

@[simp] theorem cflags_empty : (∅ : Properties).cflags = [] := rfl

@[simp] theorem cflags_append (first second : Properties) :
    (first ++ second).cflags = first.cflags ++ second.cflags := rfl

/-- Whether no property holds anything. -/
def isEmpty (properties : Properties) : Bool :=
  properties.cflags.isEmpty

/-- The properties as a JSON object. -/
def toJson (properties : Properties) : Json :=
  .object [("cflags", .ofStrings properties.cflags)]

end Properties

end DeviceFlags
