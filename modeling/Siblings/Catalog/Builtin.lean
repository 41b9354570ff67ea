import Siblings.Catalog.Basic

/-!
# Built-in catalogs

Three families of dataset classes: scalar elements, compounds of several elements, and complex
numbers. Each is written for double precision.

* `Catalog.builtin`: the catalog of a name.
-/

namespace Siblings.Catalog

namespace Builtin

/-- The tokens of double precision numbers. -/
def float64 : Descriptor where
  storageKind := "FLOAT64".toList
  boxedName := "Double".toList
  primitiveName := "double".toList
  accessor := "getElementDoubleAbs".toList
  conversion := "DTypeUtils.toReal(obj)".toList
  formatSpec := "%.8g".toList
  sentinel := "NaN".toList
  filled := by decide

/-- The tokens of single precision numbers. -/
def float32 : Descriptor where
  storageKind := "FLOAT32".toList
  boxedName := "Float".toList
  primitiveName := "float".toList
  accessor := "getElementDoubleAbs".toList
  conversion := "(float) DTypeUtils.toReal(obj)".toList
  formatSpec := "%.8g".toList
  sentinel := "NaN".toList
  filled := by decide

/-- The tokens of integers of 32 bits. -/
def int32 : Descriptor where
  storageKind := "INT32".toList
  boxedName := "Integer".toList
  primitiveName := "int".toList
  accessor := "getElementLongAbs".toList
  conversion := "(int) DTypeUtils.toLong(obj)".toList
  formatSpec := "%d".toList
  sentinel := "MIN_VALUE".toList
  filled := by decide

/-- The tokens of integers of 64 bits. -/
def int64 : Descriptor where
  storageKind := "INT64".toList
  boxedName := "Long".toList
  primitiveName := "long".toList
  accessor := "getElementLongAbs".toList
  conversion := "DTypeUtils.toLong(obj)".toList
  formatSpec := "%d".toList
  sentinel := "MIN_VALUE".toList
  filled := by decide

/-- The tokens of integers of 16 bits. -/
def int16 : Descriptor where
  storageKind := "INT16".toList
  boxedName := "Short".toList
  primitiveName := "short".toList
  accessor := "getElementLongAbs".toList
  conversion := "(short) DTypeUtils.toLong(obj)".toList
  formatSpec := "%d".toList
  sentinel := "MIN_VALUE".toList
  filled := by decide

/-- The tokens of integers of 8 bits. -/
def int8 : Descriptor where
  storageKind := "INT8".toList
  boxedName := "Byte".toList
  primitiveName := "byte".toList
  accessor := "getElementLongAbs".toList
  conversion := "(byte) DTypeUtils.toLong(obj)".toList
  formatSpec := "%d".toList
  sentinel := "MIN_VALUE".toList
  filled := by decide

/-- The tokens of booleans. -/
def bool : Descriptor where
  storageKind := "BOOL".toList
  boxedName := "Boolean".toList
  primitiveName := "boolean".toList
  accessor := "getElementBooleanAbs".toList
  conversion := "DTypeUtils.toBoolean(obj)".toList
  formatSpec := "%b".toList
  sentinel := "FALSE".toList
  filled := by decide

/-- The tokens of strings. -/
def string : Descriptor where
  storageKind := "STRING".toList
  boxedName := "String".toList
  primitiveName := "String".toList
  accessor := "getStringAbs".toList
  conversion := "obj.toString()".toList
  formatSpec := "%s".toList
  sentinel := "FALSE".toList
  filled := by decide

/-- The tokens of other objects. -/
def object : Descriptor where
  storageKind := "OBJECT".toList
  boxedName := "Object".toList
  primitiveName := "Object".toList
  accessor := "getObjectAbs".toList
  conversion := "obj".toList
  formatSpec := "%s".toList
  sentinel := "FALSE".toList
  filled := by decide

/-- The tokens of complex numbers of double precision. -/
def complex128 : Descriptor where
  storageKind := "COMPLEX128".toList
  boxedName := "Double".toList
  primitiveName := "double".toList
  accessor := "getElementDoubleAbs".toList
  conversion := "DTypeUtils.toReal(obj)".toList
  formatSpec := "%.8g".toList
  sentinel := "NaN".toList
  filled := by decide

/-- The tokens of complex numbers of single precision. -/
def complex64 : Descriptor where
  storageKind := "COMPLEX64".toList
  boxedName := "Float".toList
  primitiveName := "float".toList
  accessor := "getElementDoubleAbs".toList
  conversion := "(float) DTypeUtils.toReal(obj)".toList
  formatSpec := "%.8g".toList
  sentinel := "NaN".toList
  filled := by decide

/-- Datasets of one element each. -/
def scalar : Catalog where
  name := "scalar".toList
  table :=
    { before := []
      default := ⟨"DoubleDataset".toList, float64, .real, false⟩
      after :=
        [⟨"FloatDataset".toList, float32, .real, false⟩,
          ⟨"IntegerDataset".toList, int32, .integer, false⟩,
          ⟨"LongDataset".toList, int64, .integer, false⟩,
          ⟨"ShortDataset".toList, int16, .integer, false⟩,
          ⟨"ByteDataset".toList, int8, .integer, false⟩,
          ⟨"BooleanDatasetBase".toList, bool, .boolean, false⟩,
          ⟨"StringDatasetBase".toList, string, .object, false⟩,
          ⟨"ObjectDatasetBase".toList, object, .object, false⟩]
      distinct := by decide }
  tables := .standard
  required := none

/-- Datasets of several elements each. -/
def compound : Catalog where
  name := "compound".toList
  table :=
    { before := []
      default := ⟨"CompoundDoubleDataset".toList, float64, .real, false⟩
      after :=
        [⟨"CompoundFloatDataset".toList, float32, .real, false⟩,
          ⟨"CompoundIntegerDataset".toList, int32, .integer, false⟩,
          ⟨"CompoundLongDataset".toList, int64, .integer, false⟩,
          ⟨"CompoundShortDataset".toList, int16, .integer, false⟩,
          ⟨"CompoundByteDataset".toList, int8, .integer, false⟩]
      distinct := by decide }
  tables := .standard
  required := none

/-- Datasets of complex numbers. -/
def complex : Catalog where
  name := "complex".toList
  table :=
    { before := []
      default := ⟨"ComplexDoubleDataset".toList, complex128, .real, false⟩
      after :=
        [⟨"ComplexFloatDataset".toList, complex64, .real, false⟩]
      distinct := by decide }
  tables := .standard
  required := none

/-- Every built-in catalog. -/
def all : List Catalog := [scalar, compound, complex]

end Builtin

/-- **The built-in catalog of a name.** -/
def builtin (name : Text) : Except CatalogError Catalog :=
  match Builtin.all.find? (·.name == name) with
  | some catalog => .ok catalog
  | none => .error (.unknown name)

/-- Whether a catalog is meant for the master in a file: its default class has the file's
name. -/
def suits (catalog : Catalog) (fileName : Text) : Bool :=
  (Mode.ofFileName fileName).classIdentifier catalog.table.default.className ==
    Text.dropEnding ".java".toList fileName

/-- The built-in catalog that is meant for the master in a file. -/
def forMaster? (fileName : Text) : Option Catalog := Builtin.all.find? (·.suits fileName)

end Siblings.Catalog
