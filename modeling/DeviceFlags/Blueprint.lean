import DeviceFlags.Properties
import DeviceFlags.Text.Lines

/-!
# The build language

Properties are written as a fragment, one flag on each line, and a module as
its type with its name and its properties between braces.
-/

namespace DeviceFlags.Blueprint

/-- A character between double quotes. -/
def escapeChar (c : Char) : List Char :=
  if c = '\\' then ['\\', '\\']
  else if c = '"' then ['\\', '"']
  else [c]

/-- A text as it stands between double quotes. -/
def escape (text : List Char) : List Char :=
  text.flatMap escapeChar

/-- The line of a flag. -/
def flagLine (flag : String) : List Char :=
  "    \"".toList ++ escape flag.toList ++ "\",\n".toList

/-- The property of a list of flags. -/
def fragment (flags : List String) : List Char :=
  "cflags: [".toList ++ (if flags.isEmpty then [] else '\n' :: flags.flatMap flagLine) ++
    "],".toList

/-- The properties of a module as a fragment. -/
def render (properties : Properties) : String :=
  String.ofList (fragment properties.cflags)

/-- A line of its own. -/
def line (text : List Char) : List Char :=
  text ++ ['\n']

/-- A line inside a module. -/
def innerLine (text : List Char) : List Char :=
  "    ".toList ++ line text

/-- A module with its name and flags, under a comment for the device that it is
built for. -/
def moduleText (device type name : String) (properties : Properties) : List Char :=
  line ("// device: ".toList ++ device.toList) ++
    line (type.toList ++ [' ', '{']) ++
    innerLine ("name: \"".toList ++ name.toList ++ "\",".toList) ++
    (Text.lines (fragment properties.cflags)).flatMap innerLine ++
    line ['}']

end DeviceFlags.Blueprint
