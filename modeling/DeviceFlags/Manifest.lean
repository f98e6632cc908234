import DeviceFlags.Files.FileSystem
import DeviceFlags.Toml.Schema

/-!
# Project manifests

A project has a manifest at its top.  It may name the device to build for, and
say whether the built-in rules hold in the project.  The manifest in force is
the nearest one from the working directory upward.
-/

namespace DeviceFlags

open Toml (Entries Value SchemaError ReadError)

/-- What a manifest says. -/
structure Manifest where
  /-- The device to build for when nothing else names one. -/
  device : Option String
  /-- Whether the built-in rules hold. -/
  includeBuiltin : Bool
  deriving DecidableEq, Repr

namespace Manifest

/-- The device named by a table. -/
def deviceOfEntries (entries : Entries) : Except SchemaError String := do
  (← entries.require "name").text

/-- The device named by an array. -/
def deviceOfElements : List Value → Except SchemaError String
  | [] => .error (.tooFew 0 "DeviceSection" 1)
  | name :: _ => name.text

/-- The device named by the value of `device`. -/
def deviceOf (value : Value) : Except SchemaError String :=
  value.asRecord "DeviceSection" deviceOfEntries deviceOfElements

/-- Whether a table includes the built-in rules.  It does unless it says
otherwise. -/
def builtinOfEntries (entries : Entries) : Except SchemaError Bool :=
  match entries.find? "include-builtin" with
  | none => .ok true
  | some value => value.asTruth

/-- Whether an array includes the built-in rules. -/
def builtinOfElements : List Value → Except SchemaError Bool
  | [] => .ok true
  | value :: _ => value.asTruth

/-- Whether the value of `rules` includes the built-in rules. -/
def builtinOf (value : Value) : Except SchemaError Bool :=
  value.asRecord "RulesSection" builtinOfEntries builtinOfElements

/-- Checks a top-level key of a manifest. -/
def checkKey (key : String) (value : Value) : Except SchemaError Unit :=
  if key = "device" then (deviceOf value).map fun _ => ()
  else if key = "rules" then (builtinOf value).map fun _ => ()
  else .ok ()

/-- The manifest that a document holds. -/
def ofEntries (entries : Entries) : Except SchemaError Manifest := do
  entries.check checkKey
  let device ← (entries.find? "device").mapM deviceOf
  let includeBuiltin ← (entries.find? "rules").mapM builtinOf
  return ⟨device, includeBuiltin.getD true⟩

/-- Reads a manifest from the text of a document. -/
def ofToml (text : String) : Except ReadError Manifest :=
  Toml.readText ofEntries text

/-- The name of the file that holds a manifest. -/
def fileName : String := "sysgps.toml"

/-- A manifest that cannot be used. -/
inductive FindError where
  /-- The file gives no text. -/
  | unreadable (path : Path) (error : FileError)
  /-- The text gives no manifest. -/
  | unfit (path : Path) (error : ReadError)

/-- The account of an error in a chain of causes. -/
def FindError.account : FindError → String
  | .unreadable path error => "reading " ++ path.text ++ ": " ++ error.message
  | .unfit path _ => "parsing " ++ path.text ++ ": TOML parse error"

/-- A manifest and the directory that holds it. -/
structure Located where
  manifest : Manifest
  directory : Path

/-- Loads the manifest of a directory. -/
def load (files : FileSystem) (directory : Path) : Except FindError Located :=
  let path := directory.join fileName
  match files.readText path with
  | .error error => .error (.unreadable path error)
  | .ok text =>
      match ofToml text with
      | .error error => .error (.unfit path error)
      | .ok manifest => .ok ⟨manifest, directory⟩

/-- The first of some directories that holds a manifest file. -/
def holder? (files : FileSystem) (directories : List Path) : Option Path :=
  directories.find? fun directory => files.isFile (directory.join fileName)

/-- The manifest in force at a path: that of the nearest directory upward that
has one.  A manifest that cannot be used is not passed over. -/
def find (files : FileSystem) (start : Path) : Except FindError (Option Located) :=
  match holder? files start.upward with
  | none => .ok none
  | some directory => (load files directory).map some

/-- The name of the environment variable that may name a device. -/
def deviceVariable : String := "TARGET_DEVICE"

/-- The device to build for: the one asked for, or else the one that the
environment names, or else the one of the manifest. -/
def selectDevice (asked environment : Option String) (manifest : Option Manifest) :
    Option String :=
  asked <|> environment <|> manifest.bind (·.device)

/-- The advice for when no device is named anywhere. -/
def noDeviceMessage : String :=
  "no device specified: pass --device, set " ++ deviceVariable ++ ", or add [device] to " ++
    fileName

end Manifest

end DeviceFlags
