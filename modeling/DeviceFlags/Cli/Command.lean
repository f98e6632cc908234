import DeviceFlags.Cli.Arguments
import DeviceFlags.Files.Path
import DeviceFlags.Host.Registry

/-!
# Commands

What the program can be told to do, and how the arguments say it.
-/

namespace DeviceFlags.Cli

/-- How resolved flags are written. -/
inductive Format where
  /-- Each flag on a line. -/
  | text
  /-- A JSON array. -/
  | json
  /-- A property in the build language. -/
  | blueprint
  deriving DecidableEq, Repr

/-- The names of the formats. -/
def Format.names : List String := ["text", "json", "blueprint"]

/-- The format of a name. -/
def Format.ofName? : String → Option Format
  | "text" => some .text
  | "json" => some .json
  | "blueprint" => some .blueprint
  | _ => none

/-- What is asked of the program. -/
inductive Command where
  /-- Write the flags of a device. -/
  | resolve (device : Option String) (rules : List Path) (noBuiltin : Bool) (format : Format)
  /-- Write the effective rule table. -/
  | list (rules : List Path)
  /-- Check a rule file. -/
  | validate (file : Path)
  /-- Write a rule file to start from. -/
  | template
  /-- Write the registered module types. -/
  | moduleTypes
  /-- Write a module loaded for a device. -/
  | eval (device : Option String) (type name : String) (rules : List Path)
  deriving DecidableEq, Repr

/-- The files that a command names. -/
def Command.namedPaths : Command → List Path
  | .resolve _ rules _ _ => rules
  | .list rules => rules
  | .validate file => [file]
  | .template => []
  | .moduleTypes => []
  | .eval _ _ _ rules => rules

/-- A command and whether its progress is to be reported in detail. -/
structure Invocation where
  verbose : Bool
  command : Command
  deriving DecidableEq, Repr

/-- The switch for detailed reports, which every command takes. -/
def verboseSpec : OptionSpec := ⟨"verbose", some 'v', .switch⟩

/-- The request for help, which every command takes. -/
def helpSpec : OptionSpec := ⟨"help", some 'h', .stop .help⟩

/-- The request for the version. -/
def versionSpec : OptionSpec := ⟨"version", some 'V', .stop .version⟩

/-- An option with any text for its value. -/
def textSpec (name : String) : OptionSpec := ⟨name, none, .single .text⟩

/-- The option for extra rule files. -/
def rulesSpec : OptionSpec := ⟨"rules", none, .list .path⟩

/-- The switch that leaves the built-in rules out. -/
def noBuiltinSpec : OptionSpec := ⟨"no-builtin", none, .switch⟩

/-- The option for the output format. -/
def formatSpec : OptionSpec := ⟨"format", none, .single (.oneOf Format.names)⟩

/-- The arguments of a command without subcommands. -/
def scanAll (options : List OptionSpec) (words : List WordSpec) (arguments : List String) :
    Except Stop Given := do
  let (given, _) ← scan ⟨verboseSpec :: helpSpec :: options, words, false⟩ none ∅ arguments
  match words[given.words.length]? with
  | none => return given
  | some missing => throw (.usage (.noWord missing.name))

/-- The subcommand among arguments, with the options before it and the
arguments behind it. -/
def scanUpTo (options : List OptionSpec) (arguments : List String) :
    Except Stop (Given × String × List String) := do
  let (given, rest) ← scan ⟨verboseSpec :: helpSpec :: options, [], true⟩ none ∅ arguments
  match rest with
  | [] => throw (.usage .noCommand)
  | name :: rest => return (given, name, rest)

/-- The extra rule files. -/
def rulesOf (given : Given) : List Path :=
  (given.valuesOf rulesSpec.name).map Path.mk

/-- The output format, which is text unless the arguments say otherwise. -/
def formatOf (given : Given) : Format :=
  ((given.value? formatSpec.name).bind Format.ofName?).getD .text

/-- Notes whether the arguments of a command ask for detailed reports. -/
def invocation (given : Given) (command : Command) : Invocation :=
  ⟨given.has verboseSpec.name, command⟩

/-- Reads what follows `resolve`. -/
def readResolve (arguments : List String) : Except Stop Invocation := do
  let given ← scanAll [textSpec "device", rulesSpec, noBuiltinSpec, formatSpec] [] arguments
  return invocation given
    (.resolve (given.value? "device") (rulesOf given) (given.has noBuiltinSpec.name)
      (formatOf given))

/-- Reads what follows `eval`. -/
def readEval (arguments : List String) : Except Stop Invocation := do
  let given ←
    scanAll [textSpec "device", textSpec "module-type", textSpec "name", rulesSpec] [] arguments
  return invocation given
    (.eval (given.value? "device")
      ((given.value? "module-type").getD ModuleType.defaultsName)
      ((given.value? "name").getD ModuleType.defaultsName) (rulesOf given))

/-- Reads what follows `rules list`. -/
def readList (arguments : List String) : Except Stop Invocation := do
  let given ← scanAll [rulesSpec] [] arguments
  return invocation given (.list (rulesOf given))

/-- Reads what follows `rules validate`. -/
def readValidate (arguments : List String) : Except Stop Invocation := do
  let given ← scanAll [] [⟨"FILE", .path⟩] arguments
  return invocation given (.validate ⟨given.words.headD ""⟩)

/-- Reads the arguments of a command that takes none of its own. -/
def readPlain (command : Command) (arguments : List String) : Except Stop Invocation := do
  let given ← scanAll [] [] arguments
  return invocation given command

/-- The commands that help is given on, each by the names that lead to it. -/
def helpTopics : List (List String) :=
  [[], ["resolve"], ["rules"], ["module-types"], ["eval"], ["help"],
    ["rules", "list"], ["rules", "validate"], ["rules", "template"], ["rules", "help"]]

/-- Why reading ends at a request for help on a command. -/
def helpOn (topic : List String) : Stop :=
  if helpTopics.contains topic then .help else .usage (.unknown (" ".intercalate topic))

/-- Detailed reports that were asked for before a subcommand. -/
def Invocation.orVerbose (invocation : Invocation) (given : Given) : Invocation :=
  { invocation with verbose := invocation.verbose || given.has verboseSpec.name }

/-- Reads what follows `rules`. -/
def readRules (arguments : List String) : Except Stop Invocation := do
  let (given, name, rest) ← scanUpTo [] arguments
  let invocation ←
    match name with
    | "list" => readList rest
    | "validate" => readValidate rest
    | "template" => readPlain .template rest
    | "help" => throw (helpOn ("rules" :: rest))
    | _ => throw (.usage (.unknown name))
  return invocation.orVerbose given

/-- Reads the arguments of the program. -/
def Invocation.read (arguments : List String) : Except Stop Invocation := do
  let (given, name, rest) ← scanUpTo [versionSpec] arguments
  let invocation ←
    match name with
    | "resolve" => readResolve rest
    | "rules" => readRules rest
    | "module-types" => readPlain .moduleTypes rest
    | "eval" => readEval rest
    | "help" => throw (helpOn rest)
    | _ => throw (.usage (.unknown name))
  return invocation.orVerbose given

end DeviceFlags.Cli
