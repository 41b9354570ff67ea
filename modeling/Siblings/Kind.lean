import Siblings.Text.Basic

/-!
# Element kinds and flags

The kind of an element type decides which specialization tables a derivation uses: a boolean,
an object and an integer type have a table each, a real type has none.
-/

namespace Siblings

/-- **What the elements of a type are.** -/
inductive ElementKind where
  | real
  | integer
  | boolean
  | object
  deriving DecidableEq, Repr

namespace ElementKind

/-- Every kind. -/
def all : List ElementKind := [real, integer, boolean, object]

/-- The name of a kind. -/
def name : ElementKind → Text
  | real => "real".toList
  | integer => "integer".toList
  | boolean => "boolean".toList
  | object => "object".toList

end ElementKind

/-- **The adaptations a derivation makes** beyond the replacement of tokens. -/
structure Flags where
  /-- Take the base class from the declaration. -/
  stripBaseClass : Bool
  /-- Use the table for booleans. -/
  boolean : Bool
  /-- Use the table for strings and other objects. -/
  string : Bool
  /-- Use the table for integers. -/
  integer : Bool
  deriving DecidableEq, Repr

namespace Flags

/-- No adaptation. -/
def none : Flags := ⟨false, false, false, false⟩

/-- The table that a kind calls for. -/
def ofKind : ElementKind → Flags
  | .real => none
  | .integer => { none with integer := true }
  | .boolean => { none with boolean := true }
  | .object => { none with string := true }

/-- The adaptations of either. -/
def union (a b : Flags) : Flags :=
  ⟨a.stripBaseClass || b.stripBaseClass, a.boolean || b.boolean, a.string || b.string,
    a.integer || b.integer⟩

end Flags

end Siblings
