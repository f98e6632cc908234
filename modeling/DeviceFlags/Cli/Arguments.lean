/-!
# Command-line arguments

A command takes switches, options with a value, and words.  An option has its
value behind an equals sign or in the next argument.  A value in an argument of
its own does not look like an option, unless it is a single hyphen.  What
follows two hyphens alone is a word.

Arguments are judged one by one from the left, each value as soon as it is
there, so a request for help stands only if nothing before it is wrong.
-/

namespace DeviceFlags.Cli

/-- What is wrong with the arguments. -/
inductive UsageError where
  | unknown (argument : String)
  | repeated (option : String)
  | noValue (option : String)
  | needlessValue (option : String)
  | badValue (option value : String)
  | noWord (name : String)
  | noCommand
  deriving DecidableEq, Repr

/-- The description of an error. -/
def UsageError.message : UsageError → String
  | .unknown argument => "unexpected argument '" ++ argument ++ "'"
  | .repeated option => "the argument '" ++ option ++ "' cannot be used multiple times"
  | .noValue option => "a value is required for '" ++ option ++ "'"
  | .needlessValue option => "'" ++ option ++ "' takes no value"
  | .badValue option value => "invalid value '" ++ value ++ "' for '" ++ option ++ "'"
  | .noWord name => "the argument '" ++ name ++ "' is required"
  | .noCommand => "a subcommand is required"

/-- Why reading arguments ends early. -/
inductive Stop where
  | usage (error : UsageError)
  | help
  | version
  deriving DecidableEq, Repr

/-- What can be a value. -/
inductive ValueForm where
  /-- Any text. -/
  | text
  /-- A path, which is not empty. -/
  | path
  /-- One of some names. -/
  | oneOf (names : List String)
  deriving DecidableEq, Repr

/-- Whether a text has a form. -/
def ValueForm.accepts : ValueForm → String → Bool
  | .text, _ => true
  | .path, value => value != ""
  | .oneOf names, value => names.contains value

/-- What an option does. -/
inductive OptionKind where
  /-- It has no value. -/
  | switch
  /-- It has one value. -/
  | single (form : ValueForm)
  /-- It may be given again with another value. -/
  | list (form : ValueForm)
  /-- It ends the reading. -/
  | stop (stop : Stop)
  deriving DecidableEq, Repr

/-- An option by its long name without hyphens, and its letter if it has one. -/
structure OptionSpec where
  name : String
  letter : Option Char
  kind : OptionKind
  deriving DecidableEq, Repr

/-- A word that a command asks for. -/
structure WordSpec where
  name : String
  form : ValueForm
  deriving DecidableEq, Repr

/-- What the arguments of a command may be.  The first word of a command with
subcommands is the name of one of them. -/
structure CommandSpec where
  options : List OptionSpec
  words : List WordSpec
  hasSubcommands : Bool
  deriving DecidableEq, Repr

/-- What the arguments of a command give. -/
structure Given where
  switches : List String
  values : List (String × String)
  words : List String
  deriving DecidableEq, Repr

namespace Given

instance : EmptyCollection Given where
  emptyCollection := ⟨[], [], []⟩

/-- The value of an option. -/
def value? (given : Given) (name : String) : Option String :=
  given.values.lookup name

/-- The values of an option, in the order of the arguments. -/
def valuesOf (given : Given) (name : String) : List String :=
  (given.values.filter (·.1 == name)).map (·.2)

/-- Whether a switch is given. -/
def has (given : Given) (name : String) : Bool :=
  given.switches.contains name

/-- Notes a switch. -/
def addSwitch (given : Given) (name : String) : Except Stop Given :=
  if given.has name then .error (.usage (.repeated name))
  else .ok { given with switches := given.switches ++ [name] }

/-- Notes the value of an option if it has the right form. -/
def putValue (given : Given) (name : String) (form : ValueForm) (value : String) :
    Except Stop Given :=
  if form.accepts value then .ok { given with values := given.values ++ [(name, value)] }
  else .error (.usage (.badValue name value))

/-- Notes the value of an option. -/
def addValue (given : Given) (spec : OptionSpec) (value : String) : Except Stop Given :=
  match spec.kind with
  | .single form =>
      if (given.value? spec.name).isSome then .error (.usage (.repeated spec.name))
      else given.putValue spec.name form value
  | .list form => given.putValue spec.name form value
  | _ => .error (.usage (.needlessValue spec.name))

/-- Notes a word, which takes the next free place among the expected ones. -/
def addWord (given : Given) (expected : List WordSpec) (word : String) : Except Stop Given :=
  match expected[given.words.length]? with
  | none => .error (.usage (.unknown word))
  | some spec =>
      if spec.form.accepts word then .ok { given with words := given.words ++ [word] }
      else .error (.usage (.badValue spec.name word))

/-- Notes options without a value, given by their letters. -/
def addLetters (specs : List OptionSpec) (given : Given) : List Char → Except Stop Given
  | [] => .ok given
  | letter :: rest =>
      match specs.find? (·.letter == some letter) with
      | none => .error (.usage (.unknown (String.ofList ['-', letter])))
      | some spec =>
          match spec.kind with
          | .stop stop => .error stop
          | _ => do addLetters specs (← given.addSwitch spec.name) rest

end Given

/-- Whether an argument can be the value of the option before it. -/
def isValue (argument : String) : Bool :=
  argument.toList.head? != some '-' || argument == "-"

/-- Splits a long option at its first equals sign. -/
def splitLong (text : List Char) : String × Option String :=
  let name := String.ofList (text.takeWhile (· != '='))
  match text.dropWhile (· != '=') with
  | [] => (name, none)
  | _ :: value => (name, some (String.ofList value))

/-- Notes a long option, with the value behind its equals sign if it has one.
Also answers the option that still waits for its value. -/
def Given.addLong (given : Given) (specs : List OptionSpec) (text : List Char) :
    Except Stop (Given × Option OptionSpec) :=
  let (name, inline) := splitLong text
  match specs.find? (·.name == name) with
  | none => .error (.usage (.unknown name))
  | some spec =>
      match spec.kind, inline with
      | .switch, none => (given.addSwitch name).map (·, none)
      | .stop stop, none => .error stop
      | .switch, some _ => .error (.usage (.needlessValue name))
      | .stop _, some _ => .error (.usage (.needlessValue name))
      | _, some value => (given.addValue spec value).map (·, none)
      | _, none => .ok (given, some spec)

/-- Reads the arguments of a command, while one of its options may wait for its
value.  The arguments from the name of a subcommand on are left. -/
def scan (spec : CommandSpec) (waiting : Option OptionSpec) (given : Given) :
    List String → Except Stop (Given × List String)
  | [] =>
      match waiting with
      | none => .ok (given, [])
      | some option => .error (.usage (.noValue option.name))
  | argument :: rest =>
      match waiting with
      | some option => do
          if !isValue argument then throw (.usage (.noValue option.name))
          scan spec none (← given.addValue option argument) rest
      | none =>
          match argument.toList with
          | ['-', '-'] => do
              let given ← rest.foldlM (fun given word => given.addWord spec.words word) given
              return (given, [])
          | '-' :: '-' :: long => do
              let (given, waiting) ← given.addLong spec.options long
              scan spec waiting given rest
          | '-' :: letter :: letters => do
              scan spec none (← given.addLetters spec.options (letter :: letters)) rest
          | _ =>
              if spec.hasSubcommands then .ok (given, argument :: rest)
              else do scan spec none (← given.addWord spec.words argument) rest

end DeviceFlags.Cli
