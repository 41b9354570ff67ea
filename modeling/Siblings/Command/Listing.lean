import Siblings.Grid
import Siblings.Run

/-!
# Listings

What the command shows when it is done: the types of a catalog, or what a run has done.

* `Catalog.overview`: the types of a catalog as a grid.
* `RunReport.summary`: the files of a run as a grid.
-/

namespace Siblings

namespace Catalog

/-- The class of a type; the default type says so. -/
def classCell (catalog : Catalog) (entry : Entry) : Text :=
  if entry.className = catalog.table.default.className then entry.className ++ " (default)".toList
  else entry.className

/-- A column that shows a token. -/
def tokenColumn (heading : String) (field : Field) : Column Entry :=
  ⟨heading.toList, .left, fun entry => entry.descriptor.get field⟩

/-- The columns of an overview. -/
def columns (catalog : Catalog) : List (Column Entry) :=
  [⟨"Class".toList, .left, catalog.classCell⟩,
    ⟨"Kind".toList, .left, fun entry => entry.kind.name⟩,
    tokenColumn "Storage" .storageKind, tokenColumn "Boxed" .boxedName,
    tokenColumn "Primitive" .primitiveName, tokenColumn "Accessor" .accessor,
    tokenColumn "Conversion" .conversion, tokenColumn "Format" .formatSpec,
    tokenColumn "Sentinel" .sentinel]

/-- **The types of a catalog** as a grid. -/
def overview (catalog : Catalog) : Text :=
  "Catalog: ".toList ++ catalog.name ++ '\n' ::
    Grid.render catalog.columns catalog.table.entries ++ ['\n']

end Catalog

/-- What a summary says of a target. -/
structure SummaryRow where
  className : Text
  file : Text
  bytes : Text
  status : Text

namespace RunReport

/-- What a summary says of a class. -/
def fileRow (report : RunReport) (file : OutputFile) : SummaryRow where
  className := file.className
  file := (Path.fileName? file.path).getD []
  bytes := Text.ofNat file.bytes
  status := if report.dryRun then "planned".toList else "written".toList

/-- What a summary says of a target without a class. -/
def failureRow (failure : TargetFailure) : SummaryRow where
  className := failure.className
  file := ['-']
  bytes := ['-']
  status := "failed".toList

/-- What a summary says of the targets: those with a class first. -/
def rows (report : RunReport) : List SummaryRow :=
  report.files.map report.fileRow ++ report.failures.map failureRow

/-- The columns of a summary. -/
def columns : List (Column SummaryRow) :=
  [⟨"Class".toList, .left, SummaryRow.className⟩, ⟨"File".toList, .left, SummaryRow.file⟩,
    ⟨"Bytes".toList, .right, SummaryRow.bytes⟩, ⟨"Status".toList, .centre, SummaryRow.status⟩]

/-- **What a run has done,** as a grid. -/
def summary (report : RunReport) : Text :=
  "Master: ".toList ++ report.master ++
    "\nCatalog: ".toList ++ report.catalog ++ " (".toList ++ report.mode.title ++
    " mode)\nOutput: ".toList ++ report.outputDir ++ '\n' ::
    Grid.render columns report.rows ++ ['\n']

/-- The errors of the targets without a class. -/
def errors (report : RunReport) : Text :=
  "Errors:\n".toList ++ report.failures.flatMap fun failure =>
    "- ".toList ++ failure.className ++ ": ".toList ++ failure.error.message ++ ['\n']

end RunReport

end Siblings
