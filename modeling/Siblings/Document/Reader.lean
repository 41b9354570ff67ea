import Siblings.Document.Value

/-!
# Reading documents

Readers take a document of either dialect and give a value, or the first problem. The fields of
a record are checked in the order of its entries; then the missing ones are reported in the order
of their declaration.

* `Reader.text`, `Reader.bool`, `Reader.list`: the plain readers.
* `Reader.variant`: one of several alternatives, by its name.
* `Record`: the fields of a record.
-/

namespace Siblings

/-- **What reads a document.** -/
abbrev Reader (α : Type) := Dialect → Value → Except Problem α

namespace Reader

/-- Reads a text. -/
def text : Reader Text
  | _, .string t => .ok t
  | _, v => .error (.wrongType v.describe "a string".toList)

/-- Reads a truth value. -/
def bool : Reader Bool
  | _, .bool b => .ok b
  | _, v => .error (.wrongType v.describe "a boolean".toList)

/-- Reads an array, item by item. -/
def list {α : Type} (item : Reader α) : Reader (List α)
  | dialect, .array items => items.mapM (item dialect)
  | _, v => .error (.wrongType v.describe "a sequence".toList)

/-- Reads the value that stands beside the name of an alternative: there must be nothing in
it. -/
def nothing : Reader Unit
  | .json, .null => .ok ()
  | .json, v => .error (.wrongType v.describe "unit".toList)
  | .toml, .array [] => .ok ()
  | .toml, .array _ => .error (.loadedVariant "expected empty array".toList)
  | .toml, .table [] => .ok ()
  | .toml, .table _ => .error (.loadedVariant "expected empty table".toList)
  | .toml, v =>
    let kind :=
      match v with
      | .bool _ => "boolean"
      | .integer _ => "integer"
      | .float _ => "float"
      | .string _ => "string"
      | .moment _ => "datetime"
      | _ => "table"
    .error (.loadedVariant ("expected table, found ".toList ++ kind.toList))

/-- The alternative of a name. -/
def named {α : Type} (all : List α) (name : α → Text) (found : Text) : Except Problem α :=
  match all.find? fun a => name a == found with
  | some a => .ok a
  | none => .error (.unknownVariant found (all.map name))

/-- **Reads one of several alternatives,** by its name. The name may also be the only key of a
table. -/
def variant {α : Type} (all : List α) (name : α → Text) : Reader α
  | _, .string found => named all name found
  | dialect, .table [(found, v)] => do
    let a ← named all name found
    nothing dialect v
    return a
  | dialect, .table entries => .error (.variantCount dialect entries.isEmpty)
  | .toml, _ => .error .noVariant
  | .json, v => .error (.wrongType v.describe "string or map".toList)

end Reader

/-- The name of a record in messages, and its fields in the order of their declaration. -/
structure RecordShape where
  name : Text
  fields : List Text

namespace RecordShape

/-- A record as messages name it. -/
def title (shape : RecordShape) : Text := "struct ".toList ++ shape.name

/-- A record as messages name it where an array holds its fields. -/
def countedTitle (shape : RecordShape) : Text :=
  shape.title ++ " with ".toList ++ Text.ofNat shape.fields.length ++
    (if shape.fields.length = 1 then " element".toList else " elements".toList)

end RecordShape

/-- **The fields of a record,** from a table, or from an array that holds them in order. -/
structure Record where
  dialect : Dialect
  entries : List (Text × Value)
  /-- What is reported when a field is missing. -/
  missing : Text → Problem

namespace Record

/-- The fields of a record that must be a table. A moment is a table with none of them. -/
def ofTable (shape : RecordShape) (dialect : Dialect) : Value → Except Problem Record
  | .table entries => .ok ⟨dialect, entries, .missingField⟩
  | .moment _ => .ok ⟨dialect, [], .missingField⟩
  | v => .error (.wrongType v.describe shape.title)

/-- **The fields of a record.** -/
def ofValue (shape : RecordShape) (dialect : Dialect) : Value → Except Problem Record
  | .array items =>
    .ok ⟨dialect, shape.fields.zip items, fun _ => .wrongLength items.length shape.countedTitle⟩
  | v => ofTable shape dialect v

/-- Refuses an array that is longer than the record, where the dialect does. -/
def checkLength (shape : RecordShape) (dialect : Dialect) : Value → Except Problem Unit
  | .array items =>
    if dialect = .json && shape.fields.length < items.length then
      .error (.wrongLength items.length "fewer elements in array".toList)
    else .ok ()
  | _ => .ok ()

/-- The entry of a field. -/
def get? (record : Record) (name : Text) : Option Value := record.entries.lookup name

/-- What is checked of a field while the entries are read. -/
abbrev Check := Text × (Dialect → Value → Except Problem Unit)

/-- The check that a field can be read. -/
def check {α : Type} (name : Text) (reader : Reader α) : Check :=
  (name, fun dialect v => (reader dialect v).map fun _ => ())

/-- **Checks the entries in order.** A field that is not known passes. -/
def inOrder (record : Record) (checks : List Check) : Except Problem Unit :=
  record.entries.forM fun (name, v) =>
    match checks.lookup name with
    | some check => check record.dialect v
    | none => .ok ()

/-- Checks the entries in order. A field that is not known is refused. -/
def inOrderStrictly (record : Record) (checks : List Check) : Except Problem Unit :=
  record.entries.forM fun (name, v) =>
    match checks.lookup name with
    | some check => check record.dialect v
    | none => .error (.unknownField name (checks.map (·.1)))

/-- Checks that the entries of other fields can be kept as they are: a whole number that is too
large cannot. -/
def keepOthers (record : Record) (shape : RecordShape) : Except Problem Unit :=
  record.entries.forM fun (name, v) =>
    match shape.fields.contains name, v.oversized? with
    | false, some n => .error (.wrongType (Value.integer n).describe "any value".toList)
    | _, _ => .ok ()

/-- **A field that must be there.** -/
def required {α : Type} (record : Record) (name : Text) (reader : Reader α) :
    Except Problem α :=
  match record.get? name with
  | some v => reader record.dialect v
  | none => .error (record.missing name)

/-- A field that may be missing. -/
def optional {α : Type} (record : Record) (name : Text) (reader : Reader α) :
    Except Problem (Option α) :=
  match record.get? name with
  | some v => (reader record.dialect v).map some
  | none => .ok none

end Record

end Siblings
