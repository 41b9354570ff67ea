import Siblings.Text.Blank
import Siblings.Text.Word

/-!
# Base classes

A declaration names its class after `class` or `interface`, then its type parameters, then the
classes it extends. The clause that starts with `extends` is taken out up to the word
`implements` or the brace that opens the body.

* `BaseClass.afterDeclaration?`: a text cut behind the name in a declaration.
* `BaseClass.strip`: a text without the clause.
-/

namespace Siblings.BaseClass

/-- Whether a word may begin or end beside a character, if there is one. -/
def isBoundary (neighbour : Option Char) : Bool :=
  match neighbour with
  | none => true
  | some c => !Text.isIdentChar c

/-- The first mention that stands alone, where `passed` is what stands before, backwards, and
the first `skip` characters belong to a mention that does not stand alone. -/
def mentionFrom (mention : Text) : Nat → Text → Text → Option (Text × Text)
  | _, _, [] => none
  | skip + 1, passed, c :: rest => mentionFrom mention skip (c :: passed) rest
  | 0, passed, c :: rest =>
    if mention.isPrefixOf (c :: rest) then
      let after := (c :: rest).drop mention.length
      if isBoundary passed.head? && isBoundary after.head? then
        some (passed.reverse ++ mention, after)
      else mentionFrom mention (mention.length - 1) (c :: passed) rest
    else mentionFrom mention 0 (c :: passed) rest

/-- A text cut behind the first mention that stands alone. -/
def mention? (mention text : Text) : Option (Text × Text) := mentionFrom mention 0 [] text

/-- **A text cut behind the name in its declaration.** A class is looked for before an
interface. -/
def afterDeclaration? (className text : Text) : Option (Text × Text) :=
  mention? ("class ".toList ++ className) text <|>
    mention? ("interface ".toList ++ className) text

/-- The length of a group of angle brackets, inside `depth` of them, up to the one that closes
it. -/
def groupFrom (depth : Nat) : Text → Option Nat
  | [] => none
  | '<' :: rest => (groupFrom (depth + 1) rest).map (· + 1)
  | '>' :: rest => if depth ≤ 1 then some 1 else (groupFrom (depth - 1) rest).map (· + 1)
  | _ :: rest => (groupFrom depth rest).map (· + 1)

/-- The length of the type parameters at the start of a text, with the white space before
them. -/
def parameters (text : Text) : Nat :=
  match Text.trimStart text with
  | '<' :: rest =>
    match groupFrom 0 ('<' :: rest) with
    | some n => (Text.indent text).length + n
    | none => 0
  | _ => 0

/-- The word that ends a clause. -/
def implementsWord : Text := "implements".toList

/-- The length of a clause, inside `depth` angle brackets and behind the character `previous`. -/
def clauseFrom (depth : Nat) (previous : Char) : Text → Nat
  | [] => 0
  | c :: rest =>
    if c = '<' then clauseFrom (depth + 1) c rest + 1
    else if c = '>' then clauseFrom (depth - 1) c rest + 1
    else if depth = 0 &&
        (c == '{' ||
          (implementsWord.isPrefixOf (c :: rest) && isBoundary (some previous) &&
            isBoundary ((c :: rest).drop implementsWord.length).head?)) then 0
    else clauseFrom depth c rest + 1

/-- **A text without the `extends` clause of a class,** with a space in its place. A text without
such a clause stays as it is. -/
def strip (text className : Text) : Text :=
  match afterDeclaration? className text with
  | none => text
  | some (upToName, afterName) =>
    let (generics, rest) := afterName.splitAt (parameters afterName)
    match "extends".toList.isPrefixOf? (Text.trimStart rest) with
    | some (c :: clause) =>
      if Text.isBlank c then
        upToName ++ generics ++ ' ' :: (c :: clause).drop (clauseFrom 0 's' (c :: clause))
      else text
    | _ => text

end Siblings.BaseClass
