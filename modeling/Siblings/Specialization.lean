import Siblings.Descriptor
import Siblings.Kind
import Siblings.Marker
import Siblings.RuleSet

/-!
# Specialization

Element types that cannot use the idioms of real numbers are served by tables. A table pairs
directives, which act on the lines that carry a marker, with idioms, which are replaced together
with the tokens.

* `Idiom.render`: an idiom as a rule, its placeholders filled.
* `Specialization.standard`: the tables that are used unless a catalog brings its own.
* `Specialization.active`: the tables that some flags call for.
-/

namespace Siblings

/-- **What a directive does to a line.** -/
inductive Action where
  /-- The line goes. -/
  | drop
  /-- The line becomes live. -/
  | uncomment
  /-- Its inequality compares values. -/
  | valueEquality
  deriving DecidableEq, Repr

namespace Action

/-- Every action. -/
def all : List Action := [drop, uncomment, valueEquality]

/-- The name of an action. -/
def name : Action → Text
  | drop => "omit".toList
  | uncomment => "uncomment".toList
  | valueEquality => "value-equality".toList

end Action

/-- **An action on the lines that carry a marker.** -/
structure Directive where
  marker : Text
  action : Action
  deriving DecidableEq, Repr

namespace Directive

/-- Whether a directive acts on a line. -/
def matchesLine (directive : Directive) (line : Text) : Bool :=
  Marker.carriedBy line directive.marker

end Directive

/-- **A rule with placeholders.** The matcher is filled from the default type, the
replacement from the target. -/
structure Idiom where
  matcher : Text
  replacement : Text
  deriving DecidableEq, Repr

namespace Idiom

/-- The placeholder of a name: the name in braces. -/
def placeholder (name : Text) : Text := '{' :: name ++ ['}']

/-- **A template with its placeholders filled,** one after the other: a token that is put in may
hold a placeholder that is filled later. -/
def fill (template : Text) (descriptor : Descriptor) : Text :=
  let boxed := Text.replaceAll (placeholder "boxed".toList) descriptor.boxedName template
  let primitive := Text.replaceAll (placeholder "primitive".toList) descriptor.primitiveName boxed
  let sentinel := Text.replaceAll (placeholder "sentinel".toList) descriptor.sentinel primitive
  Text.replaceAll (placeholder "storage".toList) descriptor.storageKind sentinel

/-- An idiom as a rule. -/
def render (idiom : Idiom) (default target : Descriptor) : Rule :=
  ⟨fill idiom.matcher default, fill idiom.replacement target⟩

end Idiom

/-- **The directives and idioms of one kind of type.** -/
structure SpecialTable where
  directives : List Directive
  idioms : List Idiom
  deriving DecidableEq, Repr

namespace SpecialTable

/-- The first directive that acts on a line. -/
def directiveFor (table : SpecialTable) (line : Text) : Option Directive :=
  table.directives.find? (·.matchesLine line)

/-- The call that every element passes which may be missing. -/
def isMissing : Text := "java.util.Objects.isNull(".toList

/-- Tests of real numbers, which other types answer by asking for a missing element. -/
def realTests : List Idiom :=
  [⟨"\x7bboxed\x7d.isNaN(".toList, isMissing⟩, ⟨"\x7bboxed\x7d.isInfinite(".toList, isMissing⟩]

/-- The sentinel as it stands in masters. -/
def sentinelUse : Text := "\x7bboxed\x7d.\x7bsentinel\x7d".toList

/-- The table for booleans. -/
def boolean : SpecialTable where
  directives :=
    [⟨"BOOLEAN_USE".toList, .uncomment⟩, ⟨"BOOLEAN_OMIT".toList, .drop⟩,
      ⟨"NAN_OMIT".toList, .drop⟩]
  idioms :=
    ⟨sentinelUse, "false".toList⟩ :: realTests ++
      [⟨"Math.max(".toList, "Boolean.logicalOr(".toList⟩,
        ⟨"Math.min(".toList, "Boolean.logicalAnd(".toList⟩,
        ⟨"Math.abs(".toList, "(".toList⟩]

/-- The table for strings and other objects. -/
def string : SpecialTable where
  directives :=
    [⟨"OBJECT_USE".toList, .uncomment⟩, ⟨"OBJECT_OMIT".toList, .drop⟩,
      ⟨"NAN_OMIT".toList, .drop⟩, ⟨"OBJECT_UNEQUAL".toList, .valueEquality⟩]
  idioms := ⟨sentinelUse, "null".toList⟩ :: realTests

/-- The table for integers. -/
def integer : SpecialTable where
  directives := [⟨"NAN_OMIT".toList, .drop⟩]
  idioms := realTests

end SpecialTable

/-- **A table for each kind of type that needs one.** -/
structure Specialization where
  boolean : SpecialTable
  string : SpecialTable
  integer : SpecialTable
  deriving DecidableEq, Repr

namespace Specialization

/-- The tables that are used unless a catalog brings its own. -/
def standard : Specialization := ⟨.boolean, .string, .integer⟩

/-- **The tables that some flags call for:** boolean, string, integer. -/
def active (tables : Specialization) (flags : Flags) : List SpecialTable :=
  (if flags.boolean then [tables.boolean] else []) ++
    (if flags.string then [tables.string] else []) ++
    (if flags.integer then [tables.integer] else [])

end Specialization

end Siblings
