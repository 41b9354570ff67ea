import Siblings.Document.Reader
import Siblings.Options
import Siblings.Specialization
import Siblings.Table

/-!
# Serialized forms

Every setting and every part of a catalog has a form as a document: `toValue` writes it, `read`
reads it back. A record is written with all its fields; some may be missing when it is read.
-/

namespace Siblings

namespace Field

/-- The form of a field: its name. -/
def toValue (field : Field) : Value := .string field.name

/-- Reads a field. -/
def read : Reader Field := Reader.variant all name

end Field

namespace FieldSet

/-- Reads a set from the list of its fields. Sets are not written. -/
def read : Reader FieldSet := fun dialect v =>
  (Reader.list Field.read dialect v).map ofList

end FieldSet

namespace ElementKind

/-- The form of a kind: its name. -/
def toValue (kind : ElementKind) : Value := .string kind.name

/-- Reads a kind. -/
def read : Reader ElementKind := Reader.variant all name

end ElementKind

namespace Scope

/-- The form of a scope: its name. -/
def toValue (scope : Scope) : Value := .string scope.name

/-- Reads a scope. -/
def read : Reader Scope := Reader.variant all name

end Scope

namespace Policy

/-- The form of a policy: its name. -/
def toValue (policy : Policy) : Value := .string policy.name

/-- Reads a policy. -/
def read : Reader Policy := Reader.variant all name

end Policy

namespace Mode

/-- The form of a mode: its name. -/
def toValue (mode : Mode) : Value := .string mode.name

/-- Reads a mode. -/
def read : Reader Mode := Reader.variant all name

end Mode

namespace Action

/-- The form of an action: its name. -/
def toValue (action : Action) : Value := .string action.name

/-- Reads an action. -/
def read : Reader Action := Reader.variant all name

end Action

namespace Flags

/-- The names of the flags. -/
def shape : RecordShape where
  name := "SpecializationFlags".toList
  fields := ["strip_base_class".toList, "boolean".toList, "string".toList, "integer".toList]

/-- The form of flags. -/
def toValue (flags : Flags) : Value :=
  .table
    [("strip_base_class".toList, .bool flags.stripBaseClass),
      ("boolean".toList, .bool flags.boolean),
      ("string".toList, .bool flags.string),
      ("integer".toList, .bool flags.integer)]

/-- Reads flags. -/
def read : Reader Flags := fun dialect v => do
  let record ← Record.ofValue shape dialect v
  record.inOrder (shape.fields.map fun name => Record.check name Reader.bool)
  let stripBaseClass ← record.required "strip_base_class".toList Reader.bool
  let boolean ← record.required "boolean".toList Reader.bool
  let string ← record.required "string".toList Reader.bool
  let integer ← record.required "integer".toList Reader.bool
  Record.checkLength shape dialect v
  return ⟨stripBaseClass, boolean, string, integer⟩

end Flags

namespace Tokens

/-- The names of the tokens. -/
def shape : RecordShape where
  name := "RawDescriptor".toList
  fields := Field.all.map Field.name

/-- The entries of the tokens in a record. -/
def toEntries (tokens : Tokens) : List (Text × Value) :=
  Field.all.map fun field => (field.name, .string (tokens.get field))

/-- The tokens of a record. -/
def ofRecord (record : Record) : Except Problem Tokens := do
  record.inOrder (shape.fields.map fun name => Record.check name Reader.text)
  let storageKind ← record.required Field.storageKind.name Reader.text
  let boxedName ← record.required Field.boxedName.name Reader.text
  let primitiveName ← record.required Field.primitiveName.name Reader.text
  let accessor ← record.required Field.accessor.name Reader.text
  let conversion ← record.required Field.conversion.name Reader.text
  let formatSpec ← record.required Field.formatSpec.name Reader.text
  let sentinel ← record.required Field.sentinel.name Reader.text
  return ⟨storageKind, boxedName, primitiveName, accessor, conversion, formatSpec, sentinel⟩

end Tokens

namespace Descriptor

/-- The form of a descriptor. -/
def toValue (descriptor : Descriptor) : Value := .table descriptor.toTokens.toEntries

/-- A descriptor of some tokens, as part of a document. -/
def ofReadTokens (tokens : Tokens) : Except Problem Descriptor :=
  (ofTokens tokens).mapError .refused

/-- Reads a descriptor. -/
def read : Reader Descriptor := fun dialect v => do
  let record ← Record.ofValue Tokens.shape dialect v
  let tokens ← Tokens.ofRecord record
  Record.checkLength Tokens.shape dialect v
  ofReadTokens tokens

end Descriptor

namespace Entry

/-- The names of the fields that an entry adds to its descriptor. -/
def shape : RecordShape where
  name := "TableEntry".toList
  fields := ["class_name".toList, "kind".toList, "strip_base_class".toList]

/-- The form of an entry: the class, the tokens of its descriptor, the kind, the base class. -/
def toValue (entry : Entry) : Value :=
  .table
    (("class_name".toList, .string entry.className) :: entry.descriptor.toTokens.toEntries ++
      [("kind".toList, entry.kind.toValue),
        ("strip_base_class".toList, .bool entry.stripBaseClass)])

/-- Reads an entry. A missing kind is `real`, and the base class stays unless told otherwise. The
fields of the descriptor, and those that are not known, are kept until the entry is checked. -/
def read : Reader Entry := fun dialect v => do
  let record ← Record.ofTable shape dialect v
  record.keepOthers shape
  record.inOrder
    [Record.check "class_name".toList Reader.text, Record.check "kind".toList ElementKind.read,
      Record.check "strip_base_class".toList Reader.bool]
  let className ← record.required "class_name".toList Reader.text
  let kind ← record.optional "kind".toList ElementKind.read
  let strip ← record.optional "strip_base_class".toList Reader.bool
  let tokens ← Tokens.ofRecord record
  let descriptor ← Descriptor.ofReadTokens tokens
  return ⟨className, descriptor, kind.getD .real, strip.getD false⟩

end Entry

namespace Directive

/-- The names of the parts of a directive. -/
def shape : RecordShape := ⟨"LineDirective".toList, ["marker".toList, "action".toList]⟩

/-- The form of a directive. -/
def toValue (directive : Directive) : Value :=
  .table
    [("marker".toList, .string directive.marker), ("action".toList, directive.action.toValue)]

/-- Reads a directive. -/
def read : Reader Directive := fun dialect v => do
  let record ← Record.ofValue shape dialect v
  record.inOrder
    [Record.check "marker".toList Reader.text, Record.check "action".toList Action.read]
  let marker ← record.required "marker".toList Reader.text
  let action ← record.required "action".toList Action.read
  Record.checkLength shape dialect v
  return ⟨marker, action⟩

end Directive

namespace Idiom

/-- The names of the parts of an idiom. -/
def shape : RecordShape := ⟨"IdiomRule".toList, ["matcher".toList, "replacement".toList]⟩

/-- The form of an idiom. -/
def toValue (idiom : Idiom) : Value :=
  .table
    [("matcher".toList, .string idiom.matcher),
      ("replacement".toList, .string idiom.replacement)]

/-- Reads an idiom. -/
def read : Reader Idiom := fun dialect v => do
  let record ← Record.ofValue shape dialect v
  record.inOrder (shape.fields.map fun name => Record.check name Reader.text)
  let matcher ← record.required "matcher".toList Reader.text
  let replacement ← record.required "replacement".toList Reader.text
  Record.checkLength shape dialect v
  return ⟨matcher, replacement⟩

end Idiom

namespace SpecialTable

/-- The names of the parts of a table. -/
def shape : RecordShape := ⟨"RuleTable".toList, ["directives".toList, "idioms".toList]⟩

/-- The form of a table. -/
def toValue (table : SpecialTable) : Value :=
  .table
    [("directives".toList, .array (table.directives.map Directive.toValue)),
      ("idioms".toList, .array (table.idioms.map Idiom.toValue))]

/-- Reads a table. A missing list is empty. -/
def read : Reader SpecialTable := fun dialect v => do
  let record ← Record.ofValue shape dialect v
  record.inOrder
    [Record.check "directives".toList (Reader.list Directive.read),
      Record.check "idioms".toList (Reader.list Idiom.read)]
  let directives ← record.optional "directives".toList (Reader.list Directive.read)
  let idioms ← record.optional "idioms".toList (Reader.list Idiom.read)
  Record.checkLength shape dialect v
  return ⟨directives.getD [], idioms.getD []⟩

end SpecialTable

namespace Specialization

/-- The names of the tables. -/
def shape : RecordShape where
  name := "SpecializationRules".toList
  fields := ["boolean".toList, "string".toList, "integer".toList]

/-- The form of the tables. -/
def toValue (tables : Specialization) : Value :=
  .table
    [("boolean".toList, tables.boolean.toValue), ("string".toList, tables.string.toValue),
      ("integer".toList, tables.integer.toValue)]

/-- Reads the tables. A missing table is the standard one. -/
def read : Reader Specialization := fun dialect v => do
  let record ← Record.ofValue shape dialect v
  record.inOrder (shape.fields.map fun name => Record.check name SpecialTable.read)
  let boolean ← record.optional "boolean".toList SpecialTable.read
  let string ← record.optional "string".toList SpecialTable.read
  let integer ← record.optional "integer".toList SpecialTable.read
  Record.checkLength shape dialect v
  return ⟨boolean.getD .boolean, string.getD .string, integer.getD .integer⟩

end Specialization

end Siblings
