import Siblings.Error
import Siblings.Text.Blank

/-!
# Type descriptors

A descriptor holds the seven tokens of an element type, none of them blank. The conversion of a
type may begin with a cast, such as `(float) ` in `(float) toReal(obj)`.

* `Descriptor.ofTokens`: seven tokens make a descriptor, unless one is blank.
* `Descriptor.cast?`: the cast at the start of the conversion.
-/

namespace Siblings

/-- Seven tokens, of which any may be blank. -/
structure Tokens where
  storageKind : Text
  boxedName : Text
  primitiveName : Text
  accessor : Text
  conversion : Text
  formatSpec : Text
  sentinel : Text
  deriving DecidableEq, Repr

namespace Tokens

/-- The token of a field. -/
def get (tokens : Tokens) : Field → Text
  | .storageKind => tokens.storageKind
  | .boxedName => tokens.boxedName
  | .primitiveName => tokens.primitiveName
  | .accessor => tokens.accessor
  | .conversion => tokens.conversion
  | .formatSpec => tokens.formatSpec
  | .sentinel => tokens.sentinel

/-- The first blank field in canonical order. -/
def firstBlank? (tokens : Tokens) : Option Field :=
  Field.all.find? fun field => Text.allBlank (tokens.get field)

end Tokens

/-- **The tokens of an element type.** No token is blank. -/
structure Descriptor extends Tokens where
  filled : toTokens.firstBlank? = none
  deriving DecidableEq

namespace Descriptor

/-- Seven tokens make a descriptor, unless one is blank. -/
def ofTokens (tokens : Tokens) : Except GenError Descriptor :=
  match h : tokens.firstBlank? with
  | none => .ok ⟨tokens, h⟩
  | some field => .error (.blankField field)

/-- The token of a field. -/
def get (descriptor : Descriptor) (field : Field) : Text := descriptor.toTokens.get field

/-- Whether a character may stand in the type name of a cast. -/
def isCastChar (c : Char) : Bool := c.isAlphanum || c == '_'

/-- **The cast at the start of the conversion:** one name in parentheses, with the white space
after them. -/
def cast? (descriptor : Descriptor) : Option Text :=
  match Text.trimStart descriptor.conversion with
  | '(' :: rest =>
    let inside := rest.takeWhile (· != ')')
    match rest.dropWhile (· != ')') with
    | [] => none
    | _ :: after =>
      let name := Text.trim inside
      if name.isEmpty || !name.all isCastChar then none
      else some ('(' :: inside ++ ')' :: Text.indent after)
  | _ => none

end Descriptor

end Siblings
