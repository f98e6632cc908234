import DeviceFlags.Blueprint
import DeviceFlags.Cli.Command
import DeviceFlags.EffectiveTable
import DeviceFlags.Host.Run
import DeviceFlags.Manifest

/-!
# Running commands

A command reads files and answers with a text, or fails.  What it answers
depends on nothing but its arguments, the file system, the working directory
and the device named by the environment.
-/

namespace DeviceFlags.Cli

/-- What a command finds in its surroundings. -/
structure Surroundings where
  files : FileSystem
  workingDirectory : Path
  /-- The device that the environment names. -/
  device : Option String

/-- Why a command fails. -/
inductive Failure where
  /-- The manifest in force cannot be used. -/
  | manifest (error : Manifest.FindError)
  /-- No device is named anywhere. -/
  | noDevice
  /-- A rule file of the effective table cannot be used. -/
  | rules (file : UnusableFile)
  /-- The file to check gives no table. -/
  | unchecked (path : Path) (error : RuleFileError)
  /-- The file to check has so many errors. -/
  | refused (path : Path) (errors : Nat)
  /-- No module of the type can be made. -/
  | creating (error : HostError)
  /-- The module cannot be loaded. -/
  | loading (name : String) (error : HostError)

/-- The account of a failure, from what was tried to what went wrong. -/
def Failure.account : Failure → String
  | .manifest error => error.account
  | .noDevice => Manifest.noDeviceMessage
  | .rules file => "loading rules from " ++ file.path.text ++ ": " ++ file.error.account
  | .unchecked path error => "loading " ++ path.text ++ ": " ++ error.account
  | .refused path errors => path.text ++ ": " ++ toString errors ++ " error(s)"
  | .creating error => error.message
  | .loading name error => "loading module '" ++ name ++ "': " ++ error.message

/-- What a command wrote, and why it failed if it did. -/
structure Report where
  output : List Char
  failure : Option Failure

/-- The flags in an output format. -/
def Format.render (flags : List String) : Format → List Char
  | .text => flags.flatMap fun flag => flag.toList ++ ['\n']
  | .json => (Json.ofStrings flags).print ++ ['\n']
  | .blueprint => Blueprint.fragment flags ++ ['\n']

/-- The manifest in force, if there is one. -/
def manifestFor (surroundings : Surroundings) : Except Failure (Option Manifest.Located) :=
  (Manifest.find surroundings.files surroundings.workingDirectory).mapError .manifest

/-- The effective table under a manifest. -/
def tableFor (surroundings : Surroundings) (found : Option Manifest.Located) (noBuiltin : Bool)
    (rules : List Path) : Logged Event (Except Failure RuleTable) :=
  let manifestIncludes := (found.map (·.manifest.includeBuiltin)).getD true
  (EffectiveTable.build surroundings.files (found.map (·.directory))
    (!noBuiltin && manifestIncludes) rules).mapError .rules

/-- The device to build for and the effective table.  The manifest comes
first, then the device, then the rule files. -/
def deviceAndTable (surroundings : Surroundings) (device : Option String) (noBuiltin : Bool)
    (rules : List Path) : Logged Event (Except Failure (String × RuleTable)) :=
  match manifestFor surroundings with
  | .error failure => .silent (.error failure)
  | .ok found =>
      match Manifest.selectDevice device surroundings.device (found.map (·.manifest)) with
      | none => .silent (.error .noDevice)
      | some device =>
          (tableFor surroundings found noBuiltin rules).andThen fun table =>
            .silent (.ok (device, table))

/-- The record of a device whose flags are known: there are so many. -/
def resolvedRecord (device : String) (flags : Nat) : Record :=
  ⟨.debug, "resolved", [("device", device), ("flags", toString flags)]⟩

/-- Writes the flags of a device. -/
def resolve (surroundings : Surroundings) (device : Option String) (rules : List Path)
    (noBuiltin : Bool) (format : Format) : Logged Record (Except Failure (List Char)) :=
  (deviceAndTable surroundings device noBuiltin rules).recorded.andThen fun (device, table) =>
    let flags := table.resolve device
    ⟨.ok (format.render flags),
      flags.map (fun flag => (Event.ruleMatched device flag).record) ++
        [resolvedRecord device flags.length]⟩

/-- Pads a text with spaces on the right to a number of characters. -/
def padded (width : Nat) (text : List Char) : List Char :=
  text ++ List.replicate (width - text.length) ' '

/-- The line of a rule in a list of rules. -/
def ruleLine (rule : Rule) : List Char :=
  ' ' :: ' ' :: padded 25 rule.device.toList ++ ' ' :: rule.flag.toList ++ ['\n']

/-- A table as a list of rules with their number and that of their devices. -/
def tableText (table : RuleTable) : List Char :=
  if table.isEmpty then "No rules.\n".toList
  else
    table.rules.flatMap ruleLine ++ '\n' ::
      (toString table.size ++ " rule(s) for " ++ toString table.devices.length ++
        " device(s).\n").toList

/-- Writes the effective table. -/
def list (surroundings : Surroundings) (rules : List Path) :
    Logged Event (Except Failure (List Char)) :=
  match manifestFor surroundings with
  | .error failure => .silent (.error failure)
  | .ok found =>
      (tableFor surroundings found false rules).andThen fun table =>
        .silent (.ok (tableText table))

/-- The line of an issue. -/
def issueLine (issue : Issue) : List Char :=
  ("  " ++ issue.severity.word ++ ": " ++ issue.located ++ "\n").toList

/-- The line for a file whose rules can be used. -/
def validLine (path : Path) (table : RuleTable) (addition : String) : List Char :=
  (path.text ++ ": " ++ toString table.size ++ " rule(s), valid" ++ addition ++ "\n").toList

/-- Checks a rule file and writes its issues. -/
def validate (files : FileSystem) (path : Path) : Report :=
  match RuleFile.load files path with
  | .error error => ⟨[], some (.unchecked path error)⟩
  | .ok table =>
      if table.issues.isEmpty then ⟨validLine path table "", none⟩
      else
        let lines := table.issues.flatMap issueLine
        let errors := (table.issues.filter (·.isError)).length
        if 0 < errors then ⟨lines, some (.refused path errors)⟩
        else ⟨lines ++ validLine path table " with warnings", none⟩

/-- The names of the registered module types, one on each line. -/
def typeNames (registry : Registry) : List Char :=
  registry.names.flatMap fun name => name.toList ++ ['\n']

/-- The registry of the program: the defaults type, for some rules. -/
def registryFor (table : RuleTable) : Registry :=
  ⟨[(ModuleType.defaultsName, (ModuleType.defaults table).factory)]⟩

/-- Makes a module of a registered type, loads it for a device and writes it. -/
def evalModule (registry : Registry) (device type name : String) :
    Logged Event (Except Failure (List Char)) :=
  match registry.create? type name with
  | none => .silent (.error (.creating (.unknownType type)))
  | some made =>
      match made.load? device with
      | none => .silent (.error (.loading name (.alreadyLoaded name)))
      | some loaded =>
          ⟨.ok (Blueprint.moduleText device type loaded.name loaded.properties),
            made.loadEvents device⟩

/-- Writes a module loaded for a device. -/
def eval (surroundings : Surroundings) (device : Option String) (type name : String)
    (rules : List Path) : Logged Event (Except Failure (List Char)) :=
  (deviceAndTable surroundings device false rules).andThen fun (device, table) =>
    let result := evalModule (registryFor table) device type name
    ⟨result.value, .typeRegistered ModuleType.defaultsName :: result.events⟩

/-- The report of a command that writes nothing when it fails. -/
def Report.ofResult : Except Failure (List Char) → Report
  | .ok output => ⟨output, none⟩
  | .error failure => ⟨[], some failure⟩

/-- Carries out a command. -/
def Command.run (surroundings : Surroundings) : Command → Logged Record Report
  | .resolve device rules noBuiltin format =>
      let result := Cli.resolve surroundings device rules noBuiltin format
      ⟨.ofResult result.value, result.events⟩
  | .list rules =>
      let result := (Cli.list surroundings rules).recorded
      ⟨.ofResult result.value, result.events⟩
  | .validate file => .silent (Cli.validate surroundings.files file)
  | .template => .silent ⟨RuleTable.template.toList, none⟩
  | .moduleTypes =>
      ⟨⟨typeNames (registryFor RuleTable.builtin), none⟩,
        [(Event.typeRegistered ModuleType.defaultsName).record]⟩
  | .eval device type name rules =>
      let result := (Cli.eval surroundings device type name rules).recorded
      ⟨.ofResult result.value, result.events⟩

/-- What a run of the program leaves behind. -/
structure Outcome where
  exitCode : Nat
  stdout : String
  stderr : String
  deriving DecidableEq, Repr

/-- The outcome of a command: a failure ends the program with code 1. -/
def Report.outcome (report : Report) : Outcome :=
  match report.failure with
  | none => ⟨0, String.ofList report.output, ""⟩
  | some failure => ⟨1, String.ofList report.output, "error: " ++ failure.account ++ "\n"⟩

/-- The program's name and version. -/
def versionText : String := "sysgps 0.1.0\n"

/-- How the program is called. -/
def helpText : String :=
  "Usage: sysgps [-v] COMMAND\n\n" ++
  "  resolve [--device NAME] [--rules FILE]... [--no-builtin] [--format text|json|blueprint]\n" ++
  "  rules list [--rules FILE]...\n" ++
  "  rules validate FILE\n" ++
  "  rules template\n" ++
  "  module-types\n" ++
  "  eval [--device NAME] [--module-type TYPE] [--name NAME] [--rules FILE]...\n"

/-- The outcome when the arguments end the program before any command. -/
def Stop.outcome : Stop → Outcome
  | .version => ⟨0, versionText, ""⟩
  | .help => ⟨0, helpText, ""⟩
  | .usage error => ⟨2, "", "error: " ++ error.message ++ "\n\n" ++ helpText⟩

/-- Runs the program.  Nothing is read before the arguments are understood.  Of
the records those remain that the arguments ask to see; the environment has no say
in this. -/
def run (surroundings : Surroundings) (arguments : List String) : Logged Record Outcome :=
  match Invocation.read arguments with
  | .error stop => .silent stop.outcome
  | .ok invocation =>
      let report := invocation.command.run surroundings
      ⟨report.value.outcome, report.events.filter (·.isShown invocation.verbose)⟩

/-- The paths that a run in a working directory may follow, apart from those of
the entries of the directories among them. -/
def pathsOfInterest (workingDirectory : Path) (arguments : List String) : List Path :=
  let found := workingDirectory.upward.flatMap fun directory =>
    [directory.join Manifest.fileName, directory.join RuleFile.directoryName]
  match Invocation.read arguments with
  | .error _ => []
  | .ok invocation => found ++ invocation.command.namedPaths

end DeviceFlags.Cli
