import Siblings.Decimal
import Siblings.Error

/-!
# Documents

Catalogs and serialized settings are documents: values built from scalars, arrays and tables.
A document that does not have the shape of what is read from it gives a `Problem`.

* `Value`: a document.
* `Problem.message`: the wording of a problem.
-/

namespace Siblings

/-- A number with a point, or none. -/
inductive Numeral where
  | decimal (x : Decimal)
  | infinity (negative : Bool)
  | nan
  deriving DecidableEq, Repr

namespace Numeral

/-- How a number is shown. -/
def render : Numeral → Text
  | decimal x => x.render
  | infinity negative => (if negative then ['-'] else []) ++ "inf".toList
  | nan => "NaN".toList

end Numeral

/-- **A document.** A document that was read has the entries of a table in the order of their keys;
one that is written has them in the order of their declaration. -/
inductive Value where
  | null
  | bool (b : Bool)
  | integer (n : Int)
  | float (x : Numeral)
  | string (text : Text)
  /-- A date, a time, or both, as written. -/
  | moment (text : Text)
  | array (items : List Value)
  | table (entries : List (Text × Value))
  deriving Repr, Inhabited

/-- **The syntax that a document was read from.** -/
inductive Dialect where
  | json
  | toml
  deriving DecidableEq, Repr

/-- An integer as it is shown. -/
def Text.ofInt : Int → Text
  | .ofNat n => ofNat n
  | .negSucc n => '-' :: ofNat (n + 1)

namespace Value

/-- The number of bits that an integer calls for, where it is named in messages. -/
def widthNote (n : Int) : Text :=
  if -0x8000000000000000 ≤ n && n ≤ 0xFFFFFFFFFFFFFFFF then []
  else if n ≤ 0x7FFFFFFFFFFFFFFFFFFFFFFFFFFFFFFF then " as i128".toList
  else " as u128".toList

mutual

/-- The whole numbers of a document. -/
def integers : Value → List Int
  | integer n => [n]
  | array items => integersOfItems items
  | table entries => integersOfEntries entries
  | _ => []

/-- The whole numbers of an array. -/
def integersOfItems : List Value → List Int
  | [] => []
  | v :: items => v.integers ++ integersOfItems items

/-- The whole numbers of a table. -/
def integersOfEntries : List (Text × Value) → List Int
  | [] => []
  | (_, v) :: entries => v.integers ++ integersOfEntries entries

end

/-- Whether all whole numbers of a document fit 64 bits with a sign. -/
def isNarrow (v : Value) : Bool :=
  v.integers.all fun n => -0x8000000000000000 ≤ n && n ≤ 0x7FFFFFFFFFFFFFFF

/-- A whole number of a document that fits 64 bits neither with a sign nor without one. -/
def oversized? (v : Value) : Option Int :=
  v.integers.find? fun n => !(-0x8000000000000000 ≤ n && n ≤ 0xFFFFFFFFFFFFFFFF)

/-- **What a document is,** as messages say it. -/
def describe : Value → Text
  | null => "null".toList
  | bool b => "boolean \x60".toList ++ (if b then "true".toList else "false".toList) ++ ['\x60']
  | integer n => "integer \x60".toList ++ Text.ofInt n ++ ['\x60'] ++ widthNote n
  | float x => "floating point \x60".toList ++ x.render ++ ['\x60']
  | string text => "string ".toList ++ Text.quoted text
  | moment _ => "map".toList
  | array _ => "sequence".toList
  | table _ => "map".toList

end Value

/-- **Why a document does not have the shape that is asked for.** -/
inductive Problem where
  /-- A table lacks a field. -/
  | missingField (name : Text)
  /-- A table has a field that is not known. -/
  | unknownField (name : Text) (known : List Text)
  /-- A text names none of the alternatives. -/
  | unknownVariant (name : Text) (known : List Text)
  /-- A value is of another type. -/
  | wrongType (found expected : Text)
  /-- A value is neither a text nor a table, where an alternative is named. -/
  | noVariant
  /-- A table has several entries, or none, where it names an alternative. -/
  | variantCount (dialect : Dialect) (isEmpty : Bool)
  /-- An alternative comes with a value of its own. -/
  | loadedVariant (wording : Text)
  /-- An array has not as many items as there are fields. -/
  | wrongLength (length : Nat) (expected : Text)
  /-- The parts do not make a whole. -/
  | refused (error : GenError)
  deriving DecidableEq, Repr

namespace Problem

/-- A name as it is shown in messages. -/
def ticked (name : Text) : Text := '\x60' :: name ++ ['\x60']

/-- The names that are expected, as messages list them. -/
def expectedList : List Text → Text
  | [] => []
  | [a] => ticked a
  | [a, b] => ticked a ++ " or ".toList ++ ticked b
  | names => "one of ".toList ++ Text.join ", ".toList (names.map ticked)

/-- **The wording of a problem.** -/
def message : Problem → Text
  | missingField name => "missing field ".toList ++ ticked name
  | unknownField name known =>
    "unknown field ".toList ++ ticked name ++ ", expected ".toList ++ expectedList known
  | unknownVariant name known =>
    "unknown variant ".toList ++ ticked name ++ ", expected ".toList ++ expectedList known
  | wrongType found expected =>
    "invalid type: ".toList ++ found ++ ", expected ".toList ++ expected
  | noVariant => "wanted string or table".toList
  | variantCount .json _ => "invalid value: map, expected map with a single key".toList
  | variantCount .toml true => "wanted exactly 1 element, found 0 elements".toList
  | variantCount .toml false => "wanted exactly 1 element, more than 1 element".toList
  | loadedVariant wording => wording
  | wrongLength length expected =>
    "invalid length ".toList ++ Text.ofNat length ++ ", expected ".toList ++ expected
  | refused error => error.message

end Problem

end Siblings
