import Siblings.Catalog.Lookup
import Siblings.Generation

/-!
# A run

A run reads a master, chooses a catalog, generates the classes and writes them. Nothing is
written before every class is there, so a run that fails on the way leaves the disk as it was.

* `Run.readMaster`: the text of a master.
* `Run.selectCatalog`: the catalog that is named, or that the master calls for.
* `Run.writeFiles`: the classes on the disk.
* `Run.run`: all of it.
-/

namespace Siblings

/-- **What a run is told.** -/
structure RunConfig where
  master : Text
  /-- The catalog's name or path; the master calls for one if nothing is said. -/
  catalog : Option Text
  outputDir : Text
  scope : Scope
  /-- The tokens that the master must contain; the catalog says which if nothing is said. -/
  required : Option FieldSet
  stripBaseClass : Bool
  policy : Policy
  dryRun : Bool
  /-- Whether the classes say what they were generated from. -/
  header : Bool

/-- A class on the disk, or planned. -/
structure OutputFile where
  className : Text
  path : Text
  bytes : Nat
  deriving DecidableEq, Repr

/-- **What a run has done.** -/
structure RunReport where
  master : Text
  catalog : Text
  mode : Mode
  outputDir : Text
  files : List OutputFile
  failures : List TargetFailure
  dryRun : Bool

namespace RunReport

/-- Whether a target has no class. -/
def hasErrors (report : RunReport) : Bool := !report.failures.isEmpty

end RunReport

/-- **Why a run fails.** -/
inductive RunError where
  /-- The master cannot be read. -/
  | input (path : Text) (fault : InputFault)
  /-- There is no such catalog. -/
  | catalog (name : Text) (error : CatalogError)
  /-- A target fails. -/
  | generation (master : Text) (error : GenError)
  /-- A class cannot be written. -/
  | output (error : GenError)
  deriving DecidableEq, Repr

namespace RunError

/-- **The wording of an error,** with its causes. -/
def message : RunError → Text
  | input path fault => (GenError.malformedInput path fault).message
  | catalog name error => "load catalog ".toList ++ name ++ ": ".toList ++ error.chain
  | generation master error => "generate from ".toList ++ master ++ ": ".toList ++ error.chain
  | output error => error.chain

end RunError

namespace Run

/-- **The text of a master.** -/
def readMaster (path : Text) : Script (Except InputFault Text) :=
  .read path fun
    | .error fault => .done (.error (.disk fault))
    | .ok bytes => .done ((Text.decode bytes).mapError .encoding)

/-- The catalog for masters that call for none. -/
def fallbackCatalog : Catalog := Catalog.Builtin.scalar

/-- **The catalog that is named,** or that the master calls for. -/
def selectCatalog (logger : Logger) (named : Option Text) (fileName : Text) :
    Script (Except RunError Catalog) :=
  match named with
  | some name => do
    let result ← Catalog.resolve logger name
    return result.mapError (.catalog name)
  | none => do
    match ← Catalog.forMaster logger fileName with
    | some catalog => return .ok catalog
    | none =>
      logger.note .debug "no catalog matches master name"
        [.quoted "master" fileName, .quoted "catalog" fallbackCatalog.name]
      Catalog.noteBuiltin logger fallbackCatalog
      return .ok fallbackCatalog

/-- Where a class goes. -/
def plan (outputDir : Text) (file : GeneratedFile) : OutputFile :=
  ⟨file.className, Path.join outputDir file.fileName, Text.byteLength file.text⟩

/-- Writes classes one after the other, up to the first that cannot be written. -/
def writeEach (logger : Logger) (outputDir : Text) :
    List GeneratedFile → Script (Except GenError (List OutputFile))
  | [] => .done (.ok [])
  | file :: files =>
    let output := plan outputDir file
    .write output.path (Text.encode file.text) fun
      | .error fault => .done (.error (.unwritable output.path fault))
      | .ok () => do
        logger.note .debug "wrote class"
          [.bare "path" output.path, .count "bytes" output.bytes]
        let result ← writeEach logger outputDir files
        return result.map (output :: ·)

/-- **Writes classes into a directory.** The directory is made if there are any. -/
def writeFiles (logger : Logger) (outputDir : Text) (files : List GeneratedFile) :
    Script (Except GenError (List OutputFile)) :=
  if files.isEmpty then .done (.ok [])
  else do
    match ← Script.makeDirectories outputDir with
    | .error fault => return .error (.unwritable outputDir fault)
    | .ok () => writeEach logger outputDir files

/-- Notes how the class of a target was derived. -/
def noteDerived (logger : Logger) (request : Request) (entry : Entry) (file : GeneratedFile) :
    Script Unit := do
  let logger := logger.within "transmutate" (.bare "target_class" file.className)
  let target := Attribute.quoted "target_class" file.className
  match request.options.scope with
  | .marked => pure ()
  | .global =>
    if logger.shows .trace then
      logger.note .trace "global substitution"
        [target, .count "substitutions" (request.derivation entry).substitutions]
  logger.note .debug "transmutation complete"
    [.quoted "default_class" request.defaultClass, target,
      .count "bytes" (Text.byteLength file.text)]

/-- Notes what became of the targets, one after the other. With `failFast` nothing is noted from
the first failure on; the answer says whether there was none. -/
def noteOutcomes (logger : Logger) (request : Request) : List Outcome → Script Bool
  | [] => .done true
  | (entry, .ok file) :: outcomes => do
    noteDerived logger request entry file
    noteOutcomes logger request outcomes
  | (entry, .error error) :: outcomes =>
    match request.policy with
    | .failFast => .done false
    | .keepGoing => do
      logger.note .warn "target failed"
        [.bare "class_name" entry.className, .bare "error" error.message]
      noteOutcomes logger request outcomes

/-- Generates the classes of a request. -/
def generate (logger : Logger) (request : Request) : Script (Except GenError Report) := do
  let logger := logger.within "generate" (.bare "default_class" request.defaultClass)
  let start ← Script.clock .done
  let outcomes := request.outcomes
  let isOver ← noteOutcomes logger request outcomes
  let report := Report.ofOutcomes outcomes request.policy
  let stop ← Script.clock .done
  if isOver then
    logger.note .info "generation complete"
      [.count "generated" (outcomes.filterMap Outcome.file?).length,
        .count "failed" (outcomes.filterMap Outcome.failure?).length,
        .count "duration_ms" (stop - start)]
  return report

/-- The comment that says what a class was generated from. -/
def headerOf (fileName : Text) : Text :=
  "This is generated from ".toList ++ fileName ++ " by dtgen".toList

/-- The tokens that a master must contain. -/
def requiredBy (config : RunConfig) (catalog : Catalog) : FieldSet :=
  (config.required <|> catalog.required).getD .all

/-- What is asked for with the classes of a catalog. -/
def requestOf (config : RunConfig) (catalog : Catalog) (fileName text : Text) : Request where
  master := text
  table := catalog.table
  mode := Mode.ofFileName fileName
  options :=
    { scope := config.scope
      required := requiredBy config catalog
      header := if config.header then some (headerOf fileName) else none }
  stripBaseClass := config.stripBaseClass
  policy := config.policy
  tables := catalog.tables

/-- Puts the classes on the disk, or plans them only. -/
def deliver (logger : Logger) (config : RunConfig) (files : List GeneratedFile) :
    Script (Except GenError (List OutputFile)) :=
  if config.dryRun then .done (.ok (files.map (plan config.outputDir)))
  else writeFiles logger config.outputDir files

/-- A run once its master and its catalog are there. -/
def runWith (logger : Logger) (config : RunConfig) (start : Nat) (catalog : Catalog)
    (fileName text : Text) : Script (Except RunError RunReport) := do
  let request := requestOf config catalog fileName text
  logger.note .info "master loaded"
    [.quoted "catalog" catalog.name, .bare "mode" request.mode.title]
  logger.note .debug "required default tokens"
    [.count "required" request.options.required.size]
  match ← generate logger request with
  | .error error => return .error (.generation config.master error)
  | .ok report =>
    match ← deliver logger config report.files with
    | .error error => return .error (.output error)
    | .ok files =>
      let stop ← Script.clock .done
      logger.note .info "dtgen complete"
        [.count "written" (if config.dryRun then 0 else files.length),
          .count "failed" report.failures.length, .count "duration_ms" (stop - start)]
      return .ok
        { master := config.master
          catalog := catalog.name
          mode := request.mode
          outputDir := config.outputDir
          files
          failures := report.failures
          dryRun := config.dryRun }

/-- **A run.** -/
def run (logger : Logger) (config : RunConfig) : Script (Except RunError RunReport) := do
  let logger := logger.within "dtgen" (.bare "master" config.master)
  let start ← Script.clock .done
  match ← readMaster config.master with
  | .error fault => return .error (.input config.master fault)
  | .ok text =>
    match Path.fileName? config.master with
    | none => return .error (.input config.master .unnamed)
    | some fileName =>
      match ← selectCatalog logger config.catalog fileName with
      | .error error => return .error error
      | .ok catalog => runWith logger config start catalog fileName text

end Run

end Siblings
