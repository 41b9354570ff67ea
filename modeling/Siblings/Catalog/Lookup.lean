import Siblings.Catalog.Builtin
import Siblings.Log

/-!
# Looking up catalogs

A catalog is named by one of the built-in names or by the path of a file, or it is chosen by the
name of the master's file.

* `Catalog.load`: the catalog of a file.
* `Catalog.resolve`: the catalog of a name or path.
* `Catalog.forMaster`: the built-in catalog for a master, if there is one.
-/

namespace Siblings.Catalog

/-- Notes that a catalog was loaded. -/
def noteLoaded (logger : Logger) (catalog : Catalog) (origin : Text) : Script Unit :=
  logger.note .debug "catalog loaded"
    [.bare "catalog" catalog.name, .quoted "origin" origin, .count "types" catalog.table.size]

/-- Notes that a built-in catalog was loaded. -/
def noteBuiltin (logger : Logger) (catalog : Catalog) : Script Unit :=
  noteLoaded logger catalog ("built-in ".toList ++ catalog.name)

/-- The built-in catalog of a name. -/
def loadBuiltin (logger : Logger) (name : Text) : Script (Except CatalogError Catalog) :=
  match builtin name with
  | .error error => .done (.error error)
  | .ok catalog => do
    noteBuiltin logger catalog
    return .ok catalog

/-- The catalog in the bytes of a file, called after the file if it does not name itself. -/
def ofBytes (path : Text) (bytes : List UInt8) : Except CatalogError Catalog :=
  match Text.decode bytes with
  | .error _ => .error (.unreadable path .encoding)
  | .ok text => ofText text path ((Path.stem? path).getD "custom".toList)

/-- **The catalog of a file.** -/
def load (logger : Logger) (path : Text) : Script (Except CatalogError Catalog) :=
  .read path fun
    | .error fault => .done (.error (.unreadable path (.disk fault)))
    | .ok bytes =>
      match ofBytes path bytes with
      | .error error => .done (.error error)
      | .ok catalog => do
        noteLoaded logger catalog path
        return .ok catalog

/-- **The catalog of a name or path.** A name that is not built-in is a path if it ends in
`.toml` or if there is something at it. -/
def resolve (logger : Logger) (name : Text) : Script (Except CatalogError Catalog) :=
  if Builtin.all.any (·.name == name) then loadBuiltin logger name
  else if Path.ending? name = some "toml".toList then load logger name
  else
    .isPresent name fun
      | true => load logger name
      | false => loadBuiltin logger name

/-- **The built-in catalog for a master,** if there is one. All of them are loaded first. -/
def forMaster (logger : Logger) (fileName : Text) : Script (Option Catalog) := do
  Builtin.all.forM (noteBuiltin logger)
  match forMaster? fileName with
  | none => return none
  | some catalog =>
    logger.note .debug "catalog selected from master name"
      [.bare "catalog" catalog.name, .quoted "master" fileName]
    return some catalog

end Siblings.Catalog
