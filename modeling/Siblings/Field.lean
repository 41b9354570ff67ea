import Siblings.Text.Basic

/-!
# Descriptor fields

An element type is described by seven tokens, one for each `Field`. Every field has a name in
documents, a name on the command line, a label in messages and a marker comment in masters.

* `FieldSet`: a set of fields, bit `i` for the field at place `i` of the canonical order.
-/

namespace Siblings

/-- **The tokens that identify an element type,** in their canonical order. -/
inductive Field where
  | storageKind
  | boxedName
  | primitiveName
  | accessor
  | conversion
  | formatSpec
  | sentinel
  deriving DecidableEq, Repr

namespace Field

/-- Every field, in canonical order. -/
def all : List Field :=
  [storageKind, boxedName, primitiveName, accessor, conversion, formatSpec, sentinel]

theorem mem_all (field : Field) : field ∈ all := by cases field <;> decide

/-- The place of a field in the canonical order. -/
def place : Field → Fin 7
  | storageKind => 0
  | boxedName => 1
  | primitiveName => 2
  | accessor => 3
  | conversion => 4
  | formatSpec => 5
  | sentinel => 6

/-- The name of a field in documents. -/
def name : Field → Text
  | storageKind => "storage_kind".toList
  | boxedName => "boxed_name".toList
  | primitiveName => "primitive_name".toList
  | accessor => "accessor".toList
  | conversion => "conversion".toList
  | formatSpec => "format_spec".toList
  | sentinel => "sentinel".toList

/-- The name of a field on the command line. -/
def optionName : Field → Text
  | storageKind => "storage-kind".toList
  | boxedName => "boxed-name".toList
  | primitiveName => "primitive-name".toList
  | accessor => "accessor".toList
  | conversion => "conversion".toList
  | formatSpec => "format-spec".toList
  | sentinel => "sentinel".toList

/-- The name of a field in messages. -/
def label : Field → Text
  | storageKind => "storage kind".toList
  | boxedName => "boxed name".toList
  | primitiveName => "primitive name".toList
  | accessor => "accessor".toList
  | conversion => "conversion".toList
  | formatSpec => "format spec".toList
  | sentinel => "sentinel".toList

/-- The comment that marks the lines of a master where a field's token stands. -/
def marker : Field → Text
  | storageKind => "// DATA_TYPE".toList
  | boxedName => "// CLASS_TYPE".toList
  | primitiveName => "// PRIM_TYPE".toList
  | accessor => "// GET_ELEMENT".toList
  | conversion => "// FROM_OBJECT".toList
  | formatSpec => "// FORMAT_STRING".toList
  | sentinel => "// DEFAULT_VAL".toList

end Field

/-- **A set of fields,** with a bit for each. -/
structure FieldSet where
  mask : BitVec 7
  deriving DecidableEq, Repr

namespace FieldSet

/-- No field. -/
def empty : FieldSet := ⟨0⟩

/-- The bit of a field. -/
def bit (field : Field) : BitVec 7 := 1#7 <<< field.place.val

/-- Whether a field is in the set. -/
def contains (set : FieldSet) (field : Field) : Bool := set.mask.getLsbD field.place

/-- The set with a field added. -/
def insert (set : FieldSet) (field : Field) : FieldSet := ⟨set.mask ||| bit field⟩

/-- The set with a field taken out. -/
def erase (set : FieldSet) (field : Field) : FieldSet := ⟨set.mask &&& ~~~bit field⟩

/-- The set of the fields of a list. -/
def ofList (fields : List Field) : FieldSet := fields.foldl insert empty

/-- Every field. -/
def all : FieldSet := ofList Field.all

/-- The fields of a set, in canonical order. -/
def toList (set : FieldSet) : List Field := Field.all.filter set.contains

/-- The number of fields in a set. -/
def size (set : FieldSet) : Nat := set.toList.length

/-- Whether a set has no field. -/
def isEmpty (set : FieldSet) : Bool := set.mask == 0

/-- The bits of a set as a number. -/
def bits (set : FieldSet) : Nat := set.mask.toNat

theorem contains_all (field : Field) : all.contains field = true := by
  cases field <;> decide

theorem contains_empty (field : Field) : empty.contains field = false := by
  cases field <;> decide

theorem getElem_bit (field other : Field) :
    (bit field)[other.place] = (field == other) := by
  cases field <;> cases other <;> decide

theorem contains_insert (set : FieldSet) (field other : Field) :
    (set.insert field).contains other = (set.contains other || field == other) := by
  simp [contains, insert, ← getElem_bit]

theorem contains_erase (set : FieldSet) (field other : Field) :
    (set.erase field).contains other = (set.contains other && field != other) := by
  simp [contains, erase, bne, ← getElem_bit]

end FieldSet

end Siblings
