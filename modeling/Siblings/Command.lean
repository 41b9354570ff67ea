import Siblings.Command.Arguments
import Siblings.Command.Listing
import Siblings.Document.Json

/-!
# The command

The command generates the classes of a master, or lists the types of a catalog. What it shows
goes to the output stream, why it fails to the error stream, and it ends with an exit code: 0
when all went well, 1 when something failed, 2 when its arguments cannot be read.

* `Command.ofArguments`: what the arguments ask for.
* `Command.execute`: the command as a script.
-/

namespace Siblings

/-- How a command logs. -/
structure Logging where
  /-- How often more lines are asked for. -/
  verbose : Nat
  /-- How often fewer lines are asked for. -/
  quiet : Nat
  level : Option Level
  format : LogFormat
  file : Option Text
  colouring : Colouring

/-- What a command is asked for. -/
inductive Command where
  | help
  | version
  /-- Generate classes. -/
  | generate (logging : Logging) (config : RunConfig)
  /-- List the types of a catalog, as a JSON document if so asked. -/
  | types (logging : Logging) (catalog : Text) (asJson : Bool)

/-- **Where a command runs.** -/
structure Surroundings where
  /-- The last level of the log, or `off`, for commands that do not say how much they log. -/
  logFilter : Option Text
  /-- Whether the error stream is a terminal. -/
  isTerminal : Bool

namespace Logging

/-- The logging that arguments ask for. -/
def ofArguments (arguments : Arguments) : Logging where
  verbose := arguments.count .verbose
  quiet := arguments.count .quiet
  level := arguments.logLevel
  format := arguments.logFormat.getD .pretty
  file := arguments.logFile
  colouring := arguments.colouring.getD .auto

/-- The last level that a filter lets through; the level of the command if the filter is not
understood. -/
def filtered (filter : Text) (otherwise : Option Level) : Option Level :=
  if filter.isEmpty || filter = "off".toList then none
  else match Level.all.find? fun level => level.name == filter with
    | some level => some level
    | none => otherwise

/-- **The last level that is shown.** A level that is named counts first, then a number of steps
from the warnings, and the filter of the surroundings only where neither is given. -/
def threshold (logging : Logging) (filter : Option Text) : Option Level :=
  let counted := Level.ofRank (Level.warn.rank + logging.verbose - logging.quiet)
  match logging.level, filter with
  | some level, _ => some level
  | none, some filter =>
    if logging.verbose = 0 ∧ logging.quiet = 0 then filtered filter counted else counted
  | none, none => counted

/-- Whether log lines are coloured. -/
def styles (logging : Logging) (isTerminal : Bool) : Bool :=
  match logging.colouring with
  | .always => true
  | .never => false
  | .auto => logging.file.isNone && isTerminal

/-- The logger of a command. It shows nothing in a format whose lines are left out. -/
def logger (logging : Logging) (surroundings : Surroundings) : Logger :=
  match logging.format.layout? with
  | none => .silent
  | some layout =>
    { threshold := logging.threshold surroundings.logFilter
      layout
      styles := logging.styles surroundings.isTerminal
      file := logging.file
      spans := [] }

end Logging

namespace Command

/-- The master that is read if none is named. -/
def usualMaster : Text := "../DoubleDatasetImpl.java".toList

/-- The directory that classes go to if none is named. -/
def usualOutputDir : Text := ['.']

/-- The run that arguments ask for. -/
def runConfig (arguments : Arguments) : RunConfig where
  master := arguments.master.getD usualMaster
  catalog := arguments.catalog
  outputDir := arguments.outputDir.getD usualOutputDir
  scope := arguments.scope.getD .global
  required := arguments.required
  stripBaseClass := arguments.flags.contains .stripBaseClass
  policy := if arguments.flags.contains .keepGoing then .keepGoing else .failFast
  dryRun := arguments.flags.contains .dryRun
  header := !arguments.flags.contains .noHeader

/-- The verb that arguments begin with, and those behind it. A verb is known in the first place
only. -/
def verbOf : List Text → Verb × List Text
  | argument :: arguments =>
    if argument = "generate".toList then (.generate, arguments)
    else if argument = "types".toList then (.types, arguments)
    else (.bare, argument :: arguments)
  | [] => (.bare, [])

/-- The command of a verb, once its arguments are read. -/
def ofVerb (verb : Verb) (arguments : Arguments) : Command :=
  let logging := Logging.ofArguments arguments
  match verb with
  | .types =>
    .types logging (arguments.catalog.getD "scalar".toList) (arguments.flags.contains .json)
  | _ => .generate logging (runConfig arguments)

/-- The words that may stand behind `help`. -/
def topics : List Text := ["generate".toList, "types".toList, "help".toList]

/-- **What the arguments ask for.** Help is asked for by a flag, or by a word in the first place
with a topic behind it or none. -/
def ofArguments (arguments : List Text) : Except UsageError Command :=
  if arguments.head? = some "help".toList then
    match arguments.tail.find? fun argument => !topics.contains argument with
    | some argument => .error (.surplusArgument argument)
    | none => .ok .help
  else
    let (verb, arguments) := verbOf arguments
    match Arguments.ofList verb arguments with
    | .ok arguments => .ok (ofVerb verb arguments)
    | .error .help => .ok .help
    | .error .version => .ok .version
    | .error (.misuse error) => .error error

/-- The version, as it is shown. -/
def versionText : Text := "dtgen 0.1.0\n".toList

/-- The usage, as it is shown. -/
def usageText : Text :=
  ("Generate dataset classes for every element type from one master class.\n\n" ++
    "Usage: dtgen [generate] [MASTER] [--catalog X] [--output-dir DIR] [--scope global|marked]\n" ++
    "             [--require FIELD,...] [--strip-base-class] [--keep-going] [--dry-run]\n" ++
    "             [--no-header]\n" ++
    "       dtgen types [--catalog X] [--json]\n\n" ++
    "Options of both: [-v...] [-q...] [--log-level error|warn|info|debug|trace]\n" ++
    "                 [--log-format pretty|compact|json] [--log-file PATH]\n" ++
    "                 [--color auto|always|never] [-h] [-V]\n").toList

/-- Shows why a command fails. -/
def fail (reason : Text) (code : Nat) : Script Nat :=
  .say .err ("error: ".toList ++ reason ++ ['\n']) (.done code)

/-- Lists the types of a catalog. -/
def listTypes (logger : Logger) (name : Text) (asJson : Bool) : Script Nat := do
  match ← Catalog.resolve logger name with
  | .error error => fail (RunError.catalog name error).message 1
  | .ok catalog =>
    .say .out (if asJson then Json.pretty catalog.listing ++ ['\n'] else catalog.overview) (.done 0)

/-- Generates classes. -/
def generateClasses (logger : Logger) (config : RunConfig) : Script Nat := do
  match ← Run.run logger config with
  | .error error => fail error.message 1
  | .ok report =>
    .say .out report.summary <|
      if report.hasErrors then .say .err report.errors (.done 1) else .done 0

/-- Makes sure that log lines can be written, and goes on if so. -/
def withLog (logging : Logging) (surroundings : Surroundings) (next : Logger → Script Nat) :
    Script Nat :=
  let logger := logging.logger surroundings
  match logging.file with
  | none => next logger
  | some path =>
    .append path [] fun
      | .ok () => next logger
      | .error fault => fail ("failed to initialize logging: ".toList ++ fault.message) 1

/-- What a command does. The answer is its exit code. -/
def perform (surroundings : Surroundings) : Command → Script Nat
  | help => .say .out usageText (.done 0)
  | version => .say .out versionText (.done 0)
  | generate logging config => withLog logging surroundings (generateClasses · config)
  | types logging catalog asJson => withLog logging surroundings (listTypes · catalog asJson)

/-- **The command.** The answer is its exit code. -/
def execute (surroundings : Surroundings) (arguments : List Text) : Script Nat :=
  match ofArguments arguments with
  | .ok command => command.perform surroundings
  | .error error => .say .err ("error: ".toList ++ error.message ++ '\n' :: '\n' :: usageText)
      (.done 2)

end Command

end Siblings
