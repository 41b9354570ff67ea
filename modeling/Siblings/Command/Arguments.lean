import Siblings.Log
import Siblings.Run

/-!
# Arguments

The arguments of the command are flags, settings with a value, and the master. They are read one
after the other. A flag that asks for help or for the version counts where it stands: nothing
behind it is read, and a fault in front of it comes first.

* `Arguments.ofList`: the arguments read, or why they cannot be read.
-/

namespace Siblings

/-- When log lines are coloured. -/
inductive Colouring where
  /-- When they go to a terminal. -/
  | auto
  | always
  | never
  deriving DecidableEq, Repr

namespace Colouring

/-- Every choice. -/
def all : List Colouring := [auto, always, never]

/-- The name of a choice. -/
def name : Colouring → Text
  | auto => "auto".toList
  | always => "always".toList
  | never => "never".toList

end Colouring

/-- **How a log is written.** -/
inductive LogFormat where
  | pretty
  | compact
  /-- A JSON document on each line. -/
  | json
  deriving DecidableEq, Repr

namespace LogFormat

/-- Every format. -/
def all : List LogFormat := [pretty, compact, json]

/-- The name of a format. -/
def name : LogFormat → Text
  | pretty => "pretty".toList
  | compact => "compact".toList
  | json => "json".toList

/-- The layout of the lines of a format. JSON lines are left out: they hold the time of day, which
a script does not know. -/
def layout? : LogFormat → Option Layout
  | pretty => some .pretty
  | compact => some .compact
  | json => none

end LogFormat

/-- **What the command does.** -/
inductive Verb where
  /-- Generation, where the verb is left out. -/
  | bare
  | generate
  | types
  deriving DecidableEq, Repr

/-- **An option without a value.** -/
inductive Flag where
  | stripBaseClass
  | keepGoing
  | dryRun
  | noHeader
  | json
  | verbose
  | quiet
  | help
  | version
  deriving DecidableEq, Repr

namespace Flag

/-- The name of a flag. -/
def name : Flag → Text
  | stripBaseClass => "strip-base-class".toList
  | keepGoing => "keep-going".toList
  | dryRun => "dry-run".toList
  | noHeader => "no-header".toList
  | json => "json".toList
  | verbose => "verbose".toList
  | quiet => "quiet".toList
  | help => "help".toList
  | version => "version".toList

/-- The letter of a flag, if it has one. -/
def letter : Flag → Option Char
  | verbose => some 'v'
  | quiet => some 'q'
  | help => some 'h'
  | version => some 'V'
  | _ => none

/-- Whether a flag counts each time it is given. -/
def isCounted : Flag → Bool
  | verbose => true
  | quiet => true
  | _ => false

end Flag

/-- **An option with a value.** -/
inductive Setting where
  | catalog
  | outputDir
  | scope
  | require
  | logLevel
  | logFormat
  | logFile
  | colour
  deriving DecidableEq, Repr

namespace Setting

/-- The name of a setting. -/
def name : Setting → Text
  | catalog => "catalog".toList
  | outputDir => "output-dir".toList
  | scope => "scope".toList
  | require => "require".toList
  | logLevel => "log-level".toList
  | logFormat => "log-format".toList
  | logFile => "log-file".toList
  | colour => "color".toList

end Setting

namespace Verb

/-- The flags of generation. -/
def generationFlags : List Flag :=
  [.stripBaseClass, .keepGoing, .dryRun, .noHeader, .verbose, .quiet, .help]

/-- The flags that a verb knows. -/
def flags : Verb → List Flag
  | bare => .version :: generationFlags
  | generate => generationFlags
  | types => [.json, .verbose, .quiet, .help]

/-- The settings of the log, which every verb knows. -/
def logSettings : List Setting := [.logLevel, .logFormat, .logFile, .colour]

/-- The settings that a verb knows. -/
def settings : Verb → List Setting
  | types => .catalog :: logSettings
  | _ => [.catalog, .outputDir, .scope, .require] ++ logSettings

/-- Whether a verb takes a master. -/
def takesMaster : Verb → Bool
  | types => false
  | _ => true

end Verb

/-- **Why arguments cannot be read.** -/
inductive UsageError where
  /-- There is no such option. -/
  | unknownOption (argument : Text)
  /-- An option without a value has one. -/
  | surplusValue (flag : Flag)
  /-- A setting has no value. -/
  | missingValue (setting : Setting)
  /-- A setting does not take a value. -/
  | unknownValue (setting : Setting) (value : Text)
  /-- A flag is given again. -/
  | repeatedFlag (flag : Flag)
  /-- A setting is given again. -/
  | repeatedSetting (setting : Setting)
  /-- The name of the master is empty. -/
  | emptyMaster
  /-- An argument is too many. -/
  | surplusArgument (argument : Text)
  /-- Two flags exclude each other. -/
  | exclusive (flag other : Flag)
  deriving DecidableEq, Repr

namespace UsageError

/-- **The wording of an error.** -/
def message : UsageError → Text
  | unknownOption argument => "unknown option ".toList ++ argument
  | surplusValue flag => "no value expected for --".toList ++ flag.name
  | missingValue setting => "missing value for --".toList ++ setting.name
  | unknownValue setting value =>
    "unknown value ".toList ++ Text.quoted value ++ " for --".toList ++ setting.name
  | repeatedFlag flag => "repeated option --".toList ++ flag.name
  | repeatedSetting setting => "repeated option --".toList ++ setting.name
  | emptyMaster => "empty name of the master".toList
  | surplusArgument argument => "unexpected argument ".toList ++ Text.quoted argument
  | exclusive flag other =>
    "--".toList ++ flag.name ++ " and --".toList ++ other.name ++ " exclude each other".toList

end UsageError

/-- **What the arguments say,** option by option. -/
structure Arguments where
  master : Option Text
  /-- The flags, as often as they are given. -/
  flags : List Flag
  catalog : Option Text
  outputDir : Option Text
  scope : Option Scope
  required : Option FieldSet
  logLevel : Option Level
  logFormat : Option LogFormat
  logFile : Option Text
  colouring : Option Colouring

/-- Why the reading of arguments stops. -/
inductive Halt where
  | help
  | version
  | misuse (error : UsageError)
  deriving DecidableEq, Repr

namespace Arguments

/-- Nothing said. -/
def none : Arguments :=
  ⟨.none, [], .none, .none, .none, .none, .none, .none, .none, .none⟩

/-- Whether a setting has its value and takes no other. -/
def isClosed (arguments : Arguments) : Setting → Bool
  | .catalog => arguments.catalog.isSome
  | .outputDir => arguments.outputDir.isSome
  | .scope => arguments.scope.isSome
  | .require => false
  | .logLevel => arguments.logLevel.isSome
  | .logFormat => arguments.logFormat.isSome
  | .logFile => arguments.logFile.isSome
  | .colour => arguments.colouring.isSome

/-- The one of some choices that a value names. -/
def choose {α : Type} (setting : Setting) (choices : List α) (name : α → Text) (value : Text) :
    Except UsageError α :=
  match choices.find? fun choice => name choice == value with
  | some choice => .ok choice
  | .none => .error (.unknownValue setting value)

/-- A value that must not be empty. -/
def filled (setting : Setting) (value : Text) : Except UsageError Text :=
  if value.isEmpty then .error (.unknownValue setting value) else .ok value

/-- **Gives a setting its value.** -/
def give (arguments : Arguments) (setting : Setting) (value : Text) :
    Except UsageError Arguments := do
  if arguments.isClosed setting then throw (.repeatedSetting setting)
  match setting with
  | .catalog => return { arguments with catalog := some value }
  | .outputDir => return { arguments with outputDir := some (← filled setting value) }
  | .scope =>
    let scope ← choose setting Scope.all Scope.name value
    return { arguments with scope := some scope }
  | .require =>
    let fields ← (Text.splitOn ',' value).mapM (choose setting Field.all Field.optionName)
    let others := arguments.required.getD .empty
    return { arguments with required := some (fields.foldl .insert others) }
  | .logLevel =>
    let level ← choose setting Level.all Level.name value
    return { arguments with logLevel := some level }
  | .logFormat =>
    let format ← choose setting LogFormat.all LogFormat.name value
    return { arguments with logFormat := some format }
  | .logFile => return { arguments with logFile := some (← filled setting value) }
  | .colour =>
    let colouring ← choose setting Colouring.all Colouring.name value
    return { arguments with colouring := some colouring }

/-- Raises a flag. -/
def raise (arguments : Arguments) (flag : Flag) : Except Halt Arguments :=
  match flag with
  | .help => .error .help
  | .version => .error .version
  | _ =>
    if arguments.flags.contains flag && !flag.isCounted then
      .error (.misuse (.repeatedFlag flag))
    else .ok { arguments with flags := arguments.flags ++ [flag] }

/-- Takes an argument that is no option. -/
def place (arguments : Arguments) (verb : Verb) (argument : Text) : Except UsageError Arguments :=
  if !verb.takesMaster || arguments.master.isSome then .error (.surplusArgument argument)
  else if argument.isEmpty then .error .emptyMaster
  else .ok { arguments with master := some argument }

/-- The number of times that a flag is given. -/
def count (arguments : Arguments) (flag : Flag) : Nat := arguments.flags.count flag

end Arguments

/-- **Arguments while they are read.** -/
structure Reading where
  arguments : Arguments
  /-- A setting whose value is the next argument. -/
  awaiting : Option Setting
  /-- Whether no more options are expected. -/
  isPlain : Bool

namespace Reading

/-- Before the first argument. -/
def start : Reading := ⟨.none, none, false⟩

/-- Reads a long option: its name, and its value if there is one behind an equals sign. -/
def long (reading : Reading) (verb : Verb) (argument : Text) : Except Halt Reading :=
  let name := argument.takeWhile (· != '=')
  let value := (argument.dropWhile (· != '=')).tail?
  match verb.flags.find? (·.name == name), verb.settings.find? (·.name == name), value with
  | some flag, _, none => do return { reading with arguments := ← reading.arguments.raise flag }
  | some flag, _, some _ => .error (.misuse (.surplusValue flag))
  | none, some setting, none => .ok { reading with awaiting := some setting }
  | none, some setting, some value => do
    let arguments ← (reading.arguments.give setting value).mapError .misuse
    return { reading with arguments }
  | none, none, _ => .error (.misuse (.unknownOption ("--".toList ++ argument)))

/-- Reads the letters of flags. -/
def letters (verb : Verb) : Text → Arguments → Except Halt Arguments
  | [], arguments => .ok arguments
  | c :: rest, arguments =>
    match verb.flags.find? (·.letter == some c) with
    | some flag => do letters verb rest (← arguments.raise flag)
    | none => .error (.misuse (.unknownOption ['-', c]))

/-- Reads an argument that is no option: a value that is awaited, or the master. -/
def plain (reading : Reading) (verb : Verb) (argument : Text) : Except Halt Reading := do
  let arguments := reading.arguments
  match reading.awaiting with
  | some setting =>
    return { reading with
      arguments := ← (arguments.give setting argument).mapError .misuse, awaiting := none }
  | none =>
    return { reading with arguments := ← (arguments.place verb argument).mapError .misuse }

/-- Whether an argument is an option. A hyphen alone is none. -/
def isOption (argument : Text) : Bool := argument.head? == some '-' && argument != ['-']

/-- **Reads one argument.** An option is no value: where one is awaited, it is missing. -/
def step (verb : Verb) (reading : Reading) (argument : Text) : Except Halt Reading :=
  if !reading.isPlain && !isOption argument then reading.plain verb argument
  else
    match reading.awaiting with
    | some setting => .error (.misuse (.missingValue setting))
    | none =>
      if reading.isPlain then reading.plain verb argument
      else
        match argument with
        | ['-', '-'] => .ok { reading with isPlain := true }
        | '-' :: '-' :: option => reading.long verb option
        | _ => do
          return { reading with arguments := ← letters verb argument.tail reading.arguments }

/-- The arguments, once all are read. -/
def finish (reading : Reading) : Except Halt Arguments :=
  match reading.awaiting with
  | some setting => .error (.misuse (.missingValue setting))
  | none =>
    if reading.arguments.flags.contains .verbose && reading.arguments.flags.contains .quiet then
      .error (.misuse (.exclusive .verbose .quiet))
    else .ok reading.arguments

end Reading

/-- **The arguments of a verb read,** or why they cannot be read. -/
def Arguments.ofList (verb : Verb) (arguments : List Text) : Except Halt Arguments := do
  (← arguments.foldlM (Reading.step verb) Reading.start).finish

end Siblings
