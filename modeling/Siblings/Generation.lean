import Siblings.Derivation
import Siblings.Table

/-!
# Generating the classes of a table

A class is derived for every target of a table, each on its own. The policy says what becomes of
the others when one fails.

* `Request.outcome`: the class of one target, or its error.
* `Request.generate`: the classes of all targets, and the failures.
-/

namespace Siblings

/-- **All that the classes of a table are generated from.** -/
structure Request where
  master : Text
  table : Table
  mode : Mode
  options : Options
  /-- Take the base class from every target, whatever its entry says. -/
  stripBaseClass : Bool
  policy : Policy
  tables : Specialization

/-- **A generated class.** -/
structure GeneratedFile where
  className : Text
  text : Text
  deriving DecidableEq, Repr

namespace GeneratedFile

/-- The name of the file that holds a class. -/
def fileName (file : GeneratedFile) : Text := file.className ++ ".java".toList

end GeneratedFile

/-- A target without a class, and why. -/
structure TargetFailure where
  className : Text
  error : GenError
  deriving DecidableEq, Repr

/-- **The outcome of a generation.** -/
structure Report where
  files : List GeneratedFile
  failures : List TargetFailure
  deriving DecidableEq, Repr

namespace Report

/-- Whether every target has its class. -/
def isComplete (report : Report) : Bool := report.failures.isEmpty

end Report

namespace Request

/-- The identifier of the master's class. -/
def defaultClass (request : Request) : Text :=
  request.mode.classIdentifier request.table.default.className

/-- The identifier of a target's class. -/
def targetClass (request : Request) (entry : Entry) : Text :=
  request.mode.classIdentifier entry.className

/-- The derivation of a target's class. -/
def derivation (request : Request) (entry : Entry) : Derivation where
  master := request.master
  defaultClass := request.defaultClass
  default := request.table.default.descriptor
  targetClass := request.targetClass entry
  target := entry.descriptor
  flags := entry.flags request.stripBaseClass
  options := request.options
  tables := request.tables

/-- **The class of one target,** or its error. A target with the name of the master's class is
refused. -/
def outcome (request : Request) (entry : Entry) : Except GenError GeneratedFile :=
  if request.targetClass entry = request.defaultClass then
    .error (.selfGeneration (request.targetClass entry))
  else (request.derivation entry).run.map fun text => ⟨request.targetClass entry, text⟩

end Request

/-- What became of a target. -/
abbrev Outcome := Entry × Except GenError GeneratedFile

/-- The outcome of every target, in table order. -/
def Request.outcomes (request : Request) : List Outcome :=
  request.table.targets.map fun entry => (entry, request.outcome entry)

namespace Outcome

/-- The class of an outcome, if there is one. -/
def file? (outcome : Outcome) : Option GeneratedFile :=
  match outcome.2 with
  | .ok file => some file
  | .error _ => none

/-- The failure of an outcome, if there is no class. -/
def failure? (outcome : Outcome) : Option TargetFailure :=
  match outcome.2 with
  | .ok _ => none
  | .error error => some ⟨outcome.1.className, error⟩

end Outcome

/-- **The report on some outcomes.** With `failFast` the first failure is the error, with
`keepGoing` there is none. -/
def Report.ofOutcomes (outcomes : List Outcome) : Policy → Except GenError Report
  | .failFast => Except.map (fun files => ⟨files, []⟩) (outcomes.mapM Prod.snd)
  | .keepGoing => .ok ⟨outcomes.filterMap Outcome.file?, outcomes.filterMap Outcome.failure?⟩

/-- **The classes of all targets.** -/
def Request.generate (request : Request) : Except GenError Report :=
  Report.ofOutcomes request.outcomes request.policy

end Siblings
