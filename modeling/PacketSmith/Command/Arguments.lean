import PacketSmith.Command
import PacketSmith.Text.Search

/-!
# Command lines

The arguments of the program name a command and its options. Options have a long name and a
letter; letters can be put together, and a value stands behind an equals sign, directly
behind the letter, or in the next argument. Arguments are read in order, and a request for
help or for the version ends the reading at once; what is required and what excludes each
other is only looked at behind the last argument.
-/

namespace PacketSmith.Command

/-- What a command line asks for. -/
inductive Invocation where
  /-- Help of some kind. -/
  | help
  /-- The version. -/
  | version
  /-- The generation of code. -/
  | generate (request : GenerateRequest)
  /-- The check of a manifest. -/
  | check (manifest : Option String)
  /-- The printing of schemas. -/
  | schema (sources : List String) (manifest : Option String)
  /-- Nothing that can be done. -/
  | misuse
  deriving DecidableEq, Repr

/-- The options. -/
inductive Switch where
  | config
  | source
  | output
  | lang
  | templates
  | archive
  | manifest
  | verbose
  | help
  | version
  deriving DecidableEq, Repr

/-- The long name of an option. -/
def Switch.name : Switch → String
  | config => "config"
  | source => "source"
  | output => "output"
  | lang => "lang"
  | templates => "templates"
  | archive => "archive"
  | manifest => "manifest"
  | verbose => "verbose"
  | help => "help"
  | version => "version"

/-- The letter of an option. -/
def Switch.letter : Switch → Char
  | config => 'c'
  | source => 's'
  | output => 'o'
  | lang => 'l'
  | templates => 't'
  | archive => 'a'
  | manifest => 'm'
  | verbose => 'v'
  | help => 'h'
  | version => 'V'

/-- Whether an option has a value. -/
def Switch.hasValue : Switch → Bool
  | config | source | output | lang | templates | manifest => true
  | archive | verbose | help | version => false

/-- Whether an option can be given several times. -/
def Switch.isRepeatable : Switch → Bool
  | source | lang => true
  | _ => false

/-- Whether an option can have a value: the values of all but one option are paths, and a
path is not empty. -/
def Switch.accepts (option : Switch) (value : String) : Bool :=
  option = .lang || !value.isEmpty

/-- Where options stand: in front of a command or behind one. -/
inductive Scope where
  | top
  | generate
  | check
  | schema
  deriving DecidableEq, Repr

/-- The options of a scope. -/
def Scope.options : Scope → List Switch
  | top => [.verbose, .help, .version]
  | generate => [.config, .source, .output, .lang, .templates, .archive, .verbose, .help]
  | check => [.manifest, .verbose, .help]
  | schema => [.manifest, .verbose, .help]

/-- The commands by name. -/
def Scope.ofCommand? : String → Option Scope
  | "generate" => some .generate
  | "check" => some .check
  | "schema" => some .schema
  | _ => none

/-- What has been given in a scope. -/
structure Given where
  /-- Options with their values, in order; options without value have an empty one. -/
  options : List (Switch × String)
  /-- The other arguments, in order. -/
  values : List String
  deriving DecidableEq, Repr

/-- Why the reading of arguments ends early. -/
inductive Stop where
  | help
  | version
  | misuse
  deriving DecidableEq, Repr

/-- The invocation that an early end stands for. -/
def Stop.invocation : Stop → Invocation
  | help => .help
  | version => .version
  | misuse => .misuse

namespace Given

/-- Nothing yet. -/
def nothing : Given := ⟨[], []⟩

/-- Add an option with its value. -/
def add (given : Given) (option : Switch) (value : String) : Except Stop Given :=
  if option = .help then .error .help
  else if option = .version then .error .version
  else if !option.isRepeatable && given.options.any fun entry => entry.1 = option then
    .error .misuse
  else if option.hasValue && !option.accepts value then .error .misuse
  else .ok { given with options := given.options ++ [(option, value)] }

/-- Add an argument that is not an option. Only the printing of schemas takes any, and they
are paths. -/
def addValue (given : Given) (scope : Scope) (value : String) : Except Stop Given :=
  if scope = .schema && !value.isEmpty then .ok { given with values := given.values ++ [value] }
  else .error .misuse

/-- The values of an option. -/
def valuesOf (given : Given) (option : Switch) : List String :=
  (given.options.filter fun entry => entry.1 = option).map Prod.snd

/-- The value of an option that is given once at most. -/
def value? (given : Given) (option : Switch) : Option String :=
  (given.valuesOf option).head?

end Given

/-- The option of a scope with a long name. -/
def Scope.byName? (scope : Scope) (name : String) : Option Switch :=
  scope.options.find? fun option => option.name == name

/-- The option of a scope with a letter. -/
def Scope.byLetter? (scope : Scope) (letter : Char) : Option Switch :=
  scope.options.find? fun option => option.letter == letter

/-- What one argument leads to: what is given now, and the option that waits for its value
in the next argument. -/
abbrev Step := Given × Option Switch

/-- An argument with a long name, behind its hyphens. -/
def longOption (scope : Scope) (given : Given) (text : List Char) : Except Stop Step :=
  let (name, value) := match Text.cutAt? ['='] text with
    | some (name, value) => (name, some (String.ofList value))
    | none => (text, none)
  match scope.byName? (String.ofList name), value with
  | none, _ => .error .misuse
  | some option, some value =>
    if option.hasValue then do return (← given.add option value, none) else .error .misuse
  | some option, none =>
    if option.hasValue then .ok (given, some option)
    else do return (← given.add option "", none)

/-- An argument of letters, behind its hyphen. -/
def letterOptions (scope : Scope) (given : Given) : List Char → Except Stop Step
  | [] => .ok (given, none)
  | letter :: others =>
    match scope.byLetter? letter with
    | none => .error .misuse
    | some option =>
      if option.hasValue then
        match others with
        | [] => .ok (given, some option)
        | '=' :: value => do return (← given.add option (String.ofList value), none)
        | value => do return (← given.add option (String.ofList value), none)
      else do
        letterOptions scope (← given.add option "") others

/-- The sorts of arguments. -/
inductive ArgumentSort where
  /-- The end of all options. -/
  | ending
  /-- A long name, perhaps with a value. -/
  | long (text : List Char)
  /-- Letters. -/
  | letters (text : List Char)
  /-- Anything else. -/
  | value
  deriving DecidableEq

/-- The sort of an argument. A lone hyphen is a value. -/
def ArgumentSort.ofArgument (argument : String) : ArgumentSort :=
  match argument.toList with
  | ['-', '-'] => .ending
  | '-' :: '-' :: text => .long text
  | '-' :: first :: text => .letters (first :: text)
  | _ => .value

/-- Arguments behind the end of all options. -/
def readValues (scope : Scope) (given : Given) : List String → Except Stop Given
  | [] => .ok given
  | argument :: arguments => do
    readValues scope (← given.addValue scope argument) arguments

/-- The arguments behind a command; `waiting` is an option that waits for its value. -/
def readArguments (scope : Scope) (given : Given) (waiting : Option Switch) :
    List String → Except Stop Given
  | [] => if waiting.isSome then .error .misuse else .ok given
  | argument :: arguments =>
    match waiting, ArgumentSort.ofArgument argument with
    | some option, .value => do
      readArguments scope (← given.add option argument) none arguments
    | some _, _ => .error .misuse
    | none, .ending => readValues scope given arguments
    | none, .long text => do
      let (given, waiting) ← longOption scope given text
      readArguments scope given waiting arguments
    | none, .letters text => do
      let (given, waiting) ← letterOptions scope given text
      readArguments scope given waiting arguments
    | none, .value => do
      readArguments scope (← given.addValue scope argument) none arguments

/-- What the arguments behind a command ask for. -/
def Given.invocation (given : Given) : Scope → Invocation
  | .top => .misuse
  | .generate => .generate {
      manifest := given.value? .config
      sources := given.valuesOf .source
      output := given.value? .output
      languages := given.valuesOf .lang
      templates := given.value? .templates
      archive := !(given.valuesOf .archive).isEmpty }
  | .check => .check (given.value? .manifest)
  | .schema =>
    match given.value? .manifest, given.values with
    | none, [] => .misuse
    | some _, _ :: _ => .misuse
    | manifest, sources => .schema sources manifest

/-- What a request for help about a command asks for. -/
def helpInvocation : List String → Invocation
  | [] => .help
  | [name] => if name == "help" || (Scope.ofCommand? name).isSome then .help else .misuse
  | _ => .misuse

/-- What the arguments of the program ask for, given those in front of a command. -/
def readTop (given : Given) : List String → Invocation
  | [] => .misuse
  | argument :: arguments =>
    if argument == "help" then helpInvocation arguments
    else match Scope.ofCommand? argument with
      | some scope =>
        match readArguments scope .nothing none arguments with
        | .ok given => given.invocation scope
        | .error stop => stop.invocation
      | none =>
        match ArgumentSort.ofArgument argument with
        | .long text =>
          match longOption .top given text with
          | .ok (given, _) => readTop given arguments
          | .error stop => stop.invocation
        | .letters text =>
          match letterOptions .top given text with
          | .ok (given, _) => readTop given arguments
          | .error stop => stop.invocation
        | .ending | .value => .misuse

/-- What the arguments of the program ask for. -/
def Invocation.ofArguments (arguments : List String) : Invocation :=
  readTop .nothing arguments

/-- The text that answers a request for the version. -/
def versionText : String := "wiregen 0.3.0\n"

/-- The text that answers a request for help. -/
def helpText : String :=
  "Code generator for the wiregen binary protocol\n\nCommands: generate, check, schema, help\n"

/-- What a run of the program leaves behind: the disk, the printed text, what is said about
a failure, and the exit code. -/
structure Run where
  /-- The disk. -/
  disk : Disk
  /-- The printed text. -/
  printed : String
  /-- What is said about a failure. -/
  complaint : String
  /-- The exit code: zero for success, one for a failure, two for a misuse. -/
  exitCode : Nat

/-- The run of a command. -/
def Run.ofOutcome (outcome : Outcome) : Run :=
  match outcome.result with
  | .ok () => ⟨outcome.disk, outcome.printed, "", 0⟩
  | .error fault => ⟨outcome.disk, outcome.printed, "Error: " ++ fault.message ++ "\n", 1⟩

/-- The run that a command line asks for. -/
def run (arguments : List String) (disk : Disk) : Run :=
  match Invocation.ofArguments arguments with
  | .help => ⟨disk, helpText, "", 0⟩
  | .version => ⟨disk, versionText, "", 0⟩
  | .misuse => ⟨disk, "", "error: the arguments are not understood\n", 2⟩
  | .generate request => .ofOutcome (Command.generate request disk)
  | .check manifest => .ofOutcome (Command.check manifest disk)
  | .schema sources manifest => .ofOutcome (Command.schema sources manifest disk)

end PacketSmith.Command
