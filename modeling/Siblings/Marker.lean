import Siblings.Text.Blank

/-!
# Marker comments

A line of a master carries a marker when one of its comments starts with the marker's name. The
comment signs are read in pairs of slashes, from the left.

* `Marker.carriedBy`: whether a line carries a marker.
* `Marker.uncomment`: a commented-out line made live.
-/

namespace Siblings.Marker

/-- A text without the pairs of slashes at its start. -/
def dropSigns : Text → Text
  | '/' :: '/' :: rest => dropSigns rest
  | text => text

/-- The name in a marker: what follows its comment signs and white space. -/
def name (marker : Text) : Text := Text.trimStart (dropSigns marker)

/-- Whether a comment of a line starts with a name. -/
def named (name : Text) : Text → Bool
  | '/' :: '/' :: rest => name.isPrefixOf (Text.trimStart rest) || named name rest
  | _ :: rest => named name rest
  | [] => false

/-- **Whether a line carries a marker.** A name matches any longer name that starts with it, so
`GET_ELEMENT` is carried with `GET_ELEMENT_WITH_CAST`. -/
def carriedBy (line marker : Text) : Bool := named (name marker) line

/-- **A commented-out line made live:** the comment sign at its start goes, with one space after
it; the indentation stays. -/
def uncomment (line : Text) : Text :=
  match Text.trimStart line with
  | '/' :: '/' :: ' ' :: rest => Text.indent line ++ rest
  | '/' :: '/' :: rest => Text.indent line ++ rest
  | _ => line

end Siblings.Marker
