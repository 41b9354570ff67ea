import Siblings.Document.Forms
import Siblings.Toml.Document

/-!
# Catalogs

A catalog is a named table of element types, with its specialization and the tokens that its
masters must contain. It is read from a TOML text.

* `Catalog.ofText`: the catalog of a text.
* `CatalogError.message`: the wording of what can go wrong.
-/

namespace Siblings

/-- **A family of element types.** -/
structure Catalog where
  name : Text
  table : Table
  tables : Specialization
  /-- The tokens that a master must contain; all of them if nothing is said. -/
  required : Option FieldSet
  deriving DecidableEq

/-- Why the text of a catalog cannot be read. -/
inductive ReadFault where
  /-- The disk refuses. -/
  | disk (fault : Fault)
  /-- The bytes are no text. -/
  | encoding
  deriving DecidableEq, Repr

namespace ReadFault

/-- The wording of a fault. -/
def message : ReadFault → Text
  | disk fault => fault.message
  | encoding => "stream did not contain valid UTF-8".toList

end ReadFault

/-- **Why there is no catalog.** -/
inductive CatalogError where
  /-- Its file cannot be read. -/
  | unreadable (path : Text) (fault : ReadFault)
  /-- No built-in catalog has this name. -/
  | unknown (name : Text)
  /-- Its text is no TOML. -/
  | malformed (origin : Text)
  /-- Its document has not the shape of a catalog. -/
  | misshapen (origin : Text) (problem : Problem)
  /-- Its types make no table. -/
  | invalid (origin : Text) (error : GenError)
  deriving DecidableEq, Repr

namespace CatalogError

/-- The cause that an error brings with it, in words. -/
def cause? : CatalogError → Option Text
  | unreadable _ fault => some fault.message
  | unknown _ => none
  | malformed _ => some "TOML parse error".toList
  | misshapen _ problem => some ("TOML parse error: ".toList ++ problem.message)
  | invalid _ error => some error.message

/-- **The wording of an error,** with its cause. -/
def message (error : CatalogError) : Text :=
  let cause := error.cause?.getD []
  match error with
  | unreadable path _ => "failed to read catalog ".toList ++ path ++ ": ".toList ++ cause
  | unknown name =>
    "unknown built-in catalog: ".toList ++ name ++
      " (expected one of scalar, compound, complex)".toList
  | malformed origin => "failed to parse TOML catalog ".toList ++ origin ++ ": ".toList ++ cause
  | misshapen origin _ => "failed to parse TOML catalog ".toList ++ origin ++ ": ".toList ++ cause
  | invalid origin _ => "invalid catalog ".toList ++ origin ++ ": ".toList ++ cause

/-- The wording of an error with its cause, and the cause once more. -/
def chain (error : CatalogError) : Text :=
  match error.cause? with
  | some cause => error.message ++ ": ".toList ++ cause
  | none => error.message

end CatalogError

namespace Catalog

/-- What a document says about a catalog. -/
structure Draft where
  name : Option Text
  default : Text
  types : List Entry
  required : Option FieldSet
  tables : Specialization

namespace Draft

/-- The names of the fields of a catalog. -/
def shape : RecordShape where
  name := "CatalogFile".toList
  fields :=
    ["name".toList, "default".toList, "types".toList, "required".toList, "rules".toList]

/-- Reads a draft. A field that is not known is refused. -/
def read : Reader Draft := fun dialect v => do
  let record ← Record.ofTable shape dialect v
  record.inOrderStrictly
    [Record.check "name".toList Reader.text, Record.check "default".toList Reader.text,
      Record.check "types".toList (Reader.list Entry.read),
      Record.check "required".toList FieldSet.read,
      Record.check "rules".toList Specialization.read]
  let name ← record.optional "name".toList Reader.text
  let default ← record.required "default".toList Reader.text
  let types ← record.required "types".toList (Reader.list Entry.read)
  let required ← record.optional "required".toList FieldSet.read
  let tables ← record.optional "rules".toList Specialization.read
  return ⟨name, default, types, required, tables.getD .standard⟩

end Draft

/-- The catalog of a draft, called `fallback` if it does not name itself. -/
def ofDraft (draft : Draft) (fallback : Text) : Except GenError Catalog :=
  (Table.ofEntries draft.default draft.types).map fun table =>
    ⟨draft.name.getD fallback, table, draft.tables, draft.required⟩

/-- Why a document is no catalog. A whole number that does not fit 64 bits with a sign is no TOML;
it does no harm only where nothing is wrong with the document. -/
def refusal (document : Value) (origin : Text) (problem : Problem) : CatalogError :=
  if document.isNarrow then .misshapen origin problem else .malformed origin

/-- **The catalog of a text,** called `fallback` if it does not name itself. -/
def ofText (text origin fallback : Text) : Except CatalogError Catalog :=
  match Toml.parse? text with
  | none => .error (.malformed origin)
  | some document =>
    match Draft.read .toml document with
    | .error problem => .error (refusal document origin problem)
    | .ok draft => (ofDraft draft fallback).mapError (.invalid origin)

/-- The catalog of a text that stands by itself. -/
def ofInlineText (text : Text) : Except CatalogError Catalog :=
  ofText text "inline catalog".toList "custom".toList

/-- The form of a catalog: its name, the name of the default type, and its types. -/
def listing (catalog : Catalog) : Value :=
  .table
    [("name".toList, .string catalog.name),
      ("default".toList, .string catalog.table.default.className),
      ("types".toList, .array (catalog.table.entries.map Entry.toValue))]

end Catalog

end Siblings
