/-
  The command line of the program.

  Options may stand before or after the command; an option after it wins.  Within one of
  the two places an option stands only once, and its value is never empty.
-/

import StaticSite.Build.Site
import StaticSite.Report

namespace StaticSite

namespace CommandLine

inductive Command where
  | build (source output : Path)
  | printConfig
  | printVersion
  | printHelp
  deriving DecidableEq, Repr

/-! ## Options -/

inductive OptionName where
  | source
  | output
  deriving DecidableEq, Repr

/-- The options of one place. -/
structure Options where
  source : Option String := none
  output : Option String := none
  deriving DecidableEq, Repr

def defaultSource : String := "."

def defaultOutput : String := "./public"

namespace Options

def get? (o : Options) : OptionName → Option String
  | .source => o.source
  | .output => o.output

def put (o : Options) (value : String) : OptionName → Options
  | .source => { o with source := some value }
  | .output => { o with output := some value }

/-- Sets an option that was not set before. -/
def set? (o : Options) (name : OptionName) (value : String) : Option Options :=
  if (o.get? name).isSome || value == "" then none else some (o.put value name)

/-- The options of two places; those of the second win. -/
def override (first second : Options) : Options :=
  { source := second.source <|> first.source, output := second.output <|> first.output }

end Options

/-! ## Arguments -/

inductive Argument where
  | option (name : OptionName) (value : String)
  | version
  | help
  /-- The end of the options. -/
  | stop
  /-- An option that is unknown, or that lacks its value. -/
  | wrong
  | word (text : String)
  deriving DecidableEq, Repr

def optionNames : List (String × OptionName) := [("--source", .source), ("--output", .output)]

/-- A long option with its value in the same argument. -/
def readOption (argument : String) : Argument :=
  let found := (Text.cutAt '=' argument.toList).bind fun (name, value) =>
    (optionNames.lookup (String.ofList name)).map (Argument.option · (String.ofList value))
  found.getD .wrong

/-- Reads one argument by itself. -/
def readArgument (argument : String) : Argument :=
  match argument.toList with
  | ['-', '-'] => .stop
  | '-' :: '-' :: _ =>
    if argument == "--version" then .version
    else if argument == "--help" then .help
    else readOption argument
  | '-' :: 'V' :: _ => .version
  | '-' :: 'h' :: _ => .help
  | '-' :: _ :: _ => .wrong
  | _ => .word argument

/-- Reads all arguments; `pending` is an option that waits for its value. -/
def readArguments : (pending : Option OptionName) → List String → List Argument
  | none, [] => []
  | some _, [] => [.wrong]
  | some name, argument :: rest =>
    match readArgument argument with
    | .word value => .option name value :: readArguments none rest
    | _ => [.wrong]
  | none, argument :: rest =>
    match optionNames.lookup argument with
    | some name => readArguments (some name) rest
    | none => readArgument argument :: readArguments none rest

/-! ## Commands -/

/-- Reads what follows a command: its options, or a question for help. -/
def readOptions (o : Options) : List Argument → Option (Except Command Options)
  | [] => some (.ok o)
  | [.stop] => some (.ok o)
  | .option name value :: rest => (o.set? name value).bind (readOptions · rest)
  | .help :: _ => some (.error .printHelp)
  | _ => none

def commandNames : List (String × (Options → Command)) :=
  [("build", fun o => .build ⟨o.source.getD defaultSource⟩ ⟨o.output.getD defaultOutput⟩),
   ("gen-config", fun _ => .printConfig)]

/-- Whether help is asked for a command that there is. -/
def isHelpTopic : List Argument → Bool
  | [] => true
  | [.word name] => name == "help" || (commandNames.lookup name).isSome
  | _ => false

/-- Reads what follows the name of a command. -/
def readNamed (o : Options) (name : String) (rest : List Argument) : Option Command := do
  if name == "help" then
    if isHelpTopic rest then some .printHelp else none
  else
    let command ← commandNames.lookup name
    match ← readOptions {} rest with
    | .error asked => some asked
    | .ok own => some (command (o.override own))

/-- Reads the options before a command, and the command.  Wrong usage has no command. -/
def readCommand (o : Options) : List Argument → Option Command
  | .option name value :: rest => (o.set? name value).bind (readCommand · rest)
  | .version :: _ => some .printVersion
  | .help :: _ => some .printHelp
  | .word name :: rest => readNamed o name rest
  | _ => none

/-- The command that the arguments of the program ask for. -/
def parse (arguments : List String) : Option Command :=
  readCommand {} (readArguments none arguments)

/-! ## Running -/

/-- What a run of the program leaves: its exit code, what it printed, and what it told. -/
structure Outcome where
  code : Nat
  output : String := ""
  notices : List Notice := []
  error : Option String := none

def versionText : String := "ham 0.4.0"

def helpText : List String :=
  ["Static-site template compiler", "",
   "Usage: ham [OPTIONS] <COMMAND>", "",
   "Commands:",
   "  build       Compile every page and copy the assets",
   "  gen-config  Print a stock ham.json with all options at their defaults", "",
   "Options:",
   "      --source <SOURCE>  Project directory [default: .]",
   "      --output <OUTPUT>  Output directory [default: ./public]"]

/-- Lines of text, each with its end. -/
def lines (ls : List String) : String := String.join (ls.map (· ++ "\n"))

def buildLines (source output : Path) (events : List Event) (summary : Option Summary) :
    List String :=
  let progress := ("==> Building " ++ source.text) :: events.flatMap Report.eventLines
  match summary with
  | none => progress
  | some s =>
    progress ++ "" :: Report.summaryLines s ++ ["==> Build complete: " ++ output.text]

variable {m : Type → Type} [Monad m]

def runBuild (disk : Disk m) (now : String) (source output : Path) : m Outcome := do
  let (result, session) ← ((Site.build disk now source output).run).run {}
  match result with
  | .ok summary =>
    return {
      code := 0
      output := lines (buildLines source output session.events (some summary))
      notices := session.notices }
  | .error cause =>
    return {
      code := 1
      output := lines (buildLines source output session.events none)
      notices := session.notices
      error := some cause.message }

/-- Runs the program. -/
def run (disk : Disk m) (now : String) (arguments : List String) : m Outcome := do
  match parse arguments with
  | none => return { code := 2, error := some "wrong usage; try --help" }
  | some (.build source output) => runBuild disk now source output
  | some .printConfig => return { code := 0, output := lines [Config.stock] }
  | some .printVersion => return { code := 0, output := lines [versionText] }
  | some .printHelp => return { code := 0, output := lines helpText }

end CommandLine

end StaticSite
