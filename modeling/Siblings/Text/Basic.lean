/-!
# Text

A text is a list of characters. This file holds the searches and cuts that the rest of the
library is built from.

* `Text.includes`: whether one text occurs in another.
* `Text.cut?`: the part before the first occurrence, and the part from it on.
* `Text.splitOn`: the parts between separators.
* `Text.replaceAll`: replacement of every occurrence, from the left, none inside another.
-/

namespace Siblings

/-- A text is a list of characters. -/
abbrev Text := List Char

namespace Text

/-- The length of a text in UTF-8. -/
def byteLength (text : Text) : Nat := text.foldr (fun c bytes => c.utf8Size + bytes) 0

/-- Whether `needle` occurs in a text. -/
def includes (needle : Text) : Text → Bool
  | [] => needle.isEmpty
  | c :: rest => needle.isPrefixOf (c :: rest) || includes needle rest

/-- **The first occurrence.** What stands before it, and what starts with it. -/
def cut? (needle : Text) : Text → Option (Text × Text)
  | [] => if needle.isEmpty then some ([], []) else none
  | c :: rest =>
    if needle.isPrefixOf (c :: rest) then some ([], c :: rest)
    else (cut? needle rest).map fun (before, found) => (c :: before, found)

/-- Replacement from the left, where the first `skip` characters belong to an occurrence that
has been replaced already. -/
def replaceFrom (needle replacement : Text) : Nat → Text → Text
  | _, [] => []
  | skip + 1, _ :: rest => replaceFrom needle replacement skip rest
  | 0, c :: rest =>
    if needle.isPrefixOf (c :: rest) then
      replacement ++ replaceFrom needle replacement (needle.length - 1) rest
    else c :: replaceFrom needle replacement 0 rest

/-- Every occurrence of a non-empty `needle` replaced, in one pass from the left. -/
def replaceAll (needle replacement text : Text) : Text := replaceFrom needle replacement 0 text

/-- A text without an ending, if it has that ending. -/
def dropEnding (ending text : Text) : Text :=
  match ending.reverse.isPrefixOf? text.reverse with
  | some rest => rest.reverse
  | none => text

/-- **The texts between the separators of a text:** one more than there are separators. -/
def splitOn (separator : Char) : Text → List Text
  | [] => [[]]
  | c :: rest =>
    if c = separator then [] :: splitOn separator rest
    else match splitOn separator rest with
      | [] => [[c]]
      | piece :: more => (c :: piece) :: more

/-- Texts joined by a separator. -/
def join (separator : Text) : List Text → Text
  | [] => []
  | [text] => text
  | text :: texts => text ++ separator ++ join separator texts

/-- The decimal digits of a number. -/
def ofNat (n : Nat) : Text := (Nat.toDigits 10 n)

/-- The lower-case hexadecimal digits of a number. -/
def ofNatHex (n : Nat) : Text := (Nat.toDigits 16 n)

end Text

end Siblings
