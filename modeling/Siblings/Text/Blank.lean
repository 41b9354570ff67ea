import Siblings.Text.Basic
import Siblings.Text.Ranges

/-!
# White space

The characters of the Unicode property White_Space, and texts trimmed of them.
-/

namespace Siblings.Text

/-- The characters with the property White_Space. -/
def blankRanges : List (Nat × Nat) :=
  [(0x9, 0xD), (0x20, 0x20), (0x85, 0x85), (0xA0, 0xA0), (0x1680, 0x1680), (0x2000, 0x200A),
   (0x2028, 0x2029), (0x202F, 0x202F), (0x205F, 0x205F), (0x3000, 0x3000)]

/-- Whether a character is white space. -/
def isBlank (c : Char) : Bool := inRanges blankRanges c

/-- A text is blank when it holds white space only. -/
def allBlank (text : Text) : Bool := text.all isBlank

/-- A text without the white space at its start. -/
def trimStart (text : Text) : Text := text.dropWhile isBlank

/-- The white space at the start of a text. -/
def indent (text : Text) : Text := text.takeWhile isBlank

/-- A text without the white space at its end. -/
def trimEnd (text : Text) : Text := (trimStart text.reverse).reverse

/-- A text without the white space around it. -/
def trim (text : Text) : Text := trimEnd (trimStart text)

theorem indent_append_trimStart (text : Text) : indent text ++ trimStart text = text :=
  List.takeWhile_append_dropWhile

end Siblings.Text
