import Siblings.BaseClass
import Siblings.Operand
import Siblings.Options
import Siblings.Specialization
import Siblings.Text.Line

/-!
# Deriving a class

The class of a target type is derived from a master, which is the class of the default type.

* `Derivation.missing?`: the first token that the master lacks.
* `Derivation.shaped`: the master after the directives of the active tables.
* `Derivation.substituteMarked`: a text after the replacement on the lines that carry markers.
* `Derivation.substituted`: the shaped text after the replacement of tokens and idioms.
* `Derivation.finish`: casts, base class and header.
* `Derivation.run`: the derived text, or the first error.
-/

namespace Siblings

/-- **All that the class of a target type is derived from.** -/
structure Derivation where
  master : Text
  defaultClass : Text
  default : Descriptor
  targetClass : Text
  target : Descriptor
  flags : Flags
  options : Options
  tables : Specialization

namespace Derivation

/-- The marker of lines whose accessor call needs the cast of the target. -/
def castMarker : Text := "GET_ELEMENT_WITH_CAST".toList

/-- Whether the master holds the token of a field where it counts: anywhere, or on a line that
carries the marker of the field. -/
def holdsToken (d : Derivation) (field : Field) : Bool :=
  let token := d.default.get field
  match d.options.scope with
  | .global => Text.includes token d.master
  | .marked => (Text.lines d.master).any fun line =>
      let line := Text.bareLine line
      Marker.carriedBy line field.marker && Text.includes token line

/-- **The first token that the master lacks:** the class name, then the required fields in
canonical order. -/
def missing? (d : Derivation) : Option GenError :=
  if !Text.includes d.defaultClass d.master then
    some (.missingToken d.targetClass .className d.defaultClass)
  else
    (d.options.required.toList.find? fun field => !d.holdsToken field).map fun field =>
      .missingToken d.targetClass (.field field) (d.default.get field)

/-- The tables that the flags call for. -/
def activeTables (d : Derivation) : List SpecialTable := d.tables.active d.flags

/-- What becomes of a line by the first directive that acts on it. -/
def shapeLine (tables : List SpecialTable) (line : Text) : Text :=
  match (tables.findSome? (·.directiveFor line)).map Directive.action with
  | some .drop => []
  | some .uncomment => Marker.uncomment line
  | some .valueEquality => Operand.valueEquality line
  | none => line

/-- **The master after the directives** of the active tables. -/
def shaped (d : Derivation) : Text := Text.mapLines (shapeLine d.activeTables) d.master

/-- The idioms of the active tables, as rules. -/
def idiomRules (d : Derivation) : List Rule :=
  d.activeTables.flatMap fun table => table.idioms.map (·.render d.default d.target)

/-- The rule that replaces the token of a field. -/
def fieldRule (d : Derivation) (field : Field) : Rule := ⟨d.default.get field, d.target.get field⟩

/-- The rules where the tokens of some fields are replaced: the class, the idioms, the fields. -/
def ruleList (d : Derivation) (fields : FieldSet) : List Rule :=
  ⟨d.defaultClass, d.targetClass⟩ :: d.idiomRules ++ fields.toList.map d.fieldRule

/-- The rule set where the tokens of some fields are replaced. -/
def rules (d : Derivation) (fields : FieldSet) : Except GenError RuleSet :=
  RuleSet.ofList (d.ruleList fields)

/-- The fields whose marker a line carries. -/
def fieldsOn (line : Text) : FieldSet :=
  .ofList (Field.all.filter fun field => Marker.carriedBy line field.marker)

/-- A line after the replacement of the tokens that it is marked for. -/
def substituteLine (d : Derivation) (line : Text) : Except GenError Text :=
  (d.rules (fieldsOn line)).map (·.apply line)

/-- Rule sets that are at hand, each by the bits of its fields. -/
abbrev RuleCache := List (Nat × RuleSet)

/-- The rule set for some fields, and the sets at hand with it. One that is not at hand is made. -/
def fetch (make : FieldSet → Except GenError RuleSet) (cache : RuleCache) (fields : FieldSet) :
    Except GenError (RuleSet × RuleCache) :=
  match cache.lookup fields.bits with
  | some set => .ok (set, cache)
  | none => (make fields).map fun set => (set, (fields.bits, set) :: cache)

/-- Lines after the replacement of the tokens that each is marked for, joined. The rule set of a
line is at hand for the lines behind it. -/
def substituteLines (make : FieldSet → Except GenError RuleSet) :
    RuleCache → List Text → Except GenError Text
  | _, [] => .ok []
  | cache, line :: lines =>
    fetch make cache (fieldsOn line) >>= fun (set, cache) =>
      (substituteLines make cache lines).map (set.apply line ++ ·)

/-- **A text after the replacement on its marked lines.** Lines with the same markers share a rule
set. -/
def substituteMarked (d : Derivation) (text : Text) : Except GenError Text :=
  substituteLines d.rules [] (Text.lines text)

/-- **The shaped text after the replacement** of tokens and idioms. -/
def substituted (d : Derivation) : Except GenError Text :=
  match d.options.scope with
  | .global => (d.rules .all).map (·.apply d.shaped)
  | .marked => d.substituteMarked d.shaped

/-- The number of replacements that the whole shaped text takes. -/
def substitutions (d : Derivation) : Nat :=
  match d.rules .all with
  | .ok set => (set.hits d.shaped).foldl (· + ·) 0
  | .error _ => 0

/-- A line with the cast of the target in front of its accessor call, if it is marked for it. -/
def castLine (accessor cast line : Text) : Text :=
  if Marker.carriedBy line castMarker then Operand.insertCast line accessor cast else line

/-- A text with the cast of the target on its marked lines, if the target has one. -/
def withCasts (target : Descriptor) (text : Text) : Text :=
  match target.cast? with
  | some cast => Text.mapLines (castLine target.accessor cast) text
  | none => text

/-- Whether a line names the package. -/
def isPackageLine (line : Text) : Bool := "package ".toList.isPrefixOf (Text.trimStart line)

/-- The lines of a text cut in front of the first package line, or in front of them all. -/
def cutAtPackage (lines : List Text) : List Text × List Text :=
  if lines.any isPackageLine then
    (lines.takeWhile fun line => !isPackageLine line,
      lines.dropWhile fun line => !isPackageLine line)
  else ([], lines)

/-- **A text with a comment in front of its package line,** or of its first line if it has no
package line. -/
def insertHeader (text header : Text) : Text :=
  let (before, after) := cutAtPackage (Text.lines text)
  before.flatten ++ "// ".toList ++ header ++ "\n\n".toList ++ after.flatten

/-- What is done to the text after the replacement: casts, base class, header. -/
def finish (d : Derivation) (text : Text) : Text :=
  let cast := withCasts d.target text
  let stripped := if d.flags.stripBaseClass then BaseClass.strip cast d.targetClass else cast
  match d.options.header with
  | some header => insertHeader stripped header
  | none => stripped

/-- **The derived text,** or the first error: a missing token comes before a bad rule. -/
def run (d : Derivation) : Except GenError Text :=
  match d.missing? with
  | some error => .error error
  | none => d.substituted.map d.finish

end Derivation

end Siblings
