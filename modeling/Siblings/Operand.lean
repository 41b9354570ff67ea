import Siblings.Text.Word

/-!
# Operands

An operand is read off a line by its brackets: outside them it holds letters, digits,
underscores and dots, inside them anything. It ends at the first other character, or at a
bracket that belongs to what surrounds it.

* `Operand.leading`: the length of the operand at the start of a text.
* `Operand.trailing`: the length of the operand at the end of a text.
* `Operand.valueEquality`: `a != b` as `!a.equals(b)`.
* `Operand.insertCast`: a cast in front of the receiver of a call.
-/

namespace Siblings.Operand

/-- Whether a character may stand in an operand outside brackets. -/
def isOperandChar (c : Char) : Bool := Text.isWordChar c || c == '_' || c == '.'

/-- Whether a character opens a bracket. -/
def isOpening (c : Char) : Bool := c == '(' || c == '['

/-- Whether a character closes a bracket. -/
def isClosing (c : Char) : Bool := c == ')' || c == ']'

/-- The length of the operand at the start of a text, inside `depth` brackets. -/
def leadingFrom (depth : Nat) : Text → Nat
  | [] => 0
  | c :: rest =>
    if isOpening c then leadingFrom (depth + 1) rest + 1
    else if isClosing c then
      match depth with
      | 0 => 0
      | depth + 1 => leadingFrom depth rest + 1
    else if isOperandChar c || 0 < depth then leadingFrom depth rest + 1
    else 0

/-- **The length of the operand at the start of a text.** -/
def leading (text : Text) : Nat := leadingFrom 0 text

/-- The length of the operand at the end of a text that is given backwards, inside `depth`
brackets. -/
def trailingFrom (depth : Nat) : Text → Nat
  | [] => 0
  | c :: rest =>
    if isClosing c then trailingFrom (depth + 1) rest + 1
    else if isOpening c then
      match depth with
      | 0 => 0
      | depth + 1 => trailingFrom depth rest + 1
    else if isOperandChar c || 0 < depth then trailingFrom depth rest + 1
    else 0

/-- **The length of the operand at the end of a text.** -/
def trailing (text : Text) : Nat := trailingFrom 0 text.reverse

/-- A text cut in front of the operand at its end. -/
def splitTrailing (text : Text) : Text × Text := text.splitAt (text.length - trailing text)

/-- A text cut behind the operand at its start. -/
def splitLeading (text : Text) : Text × Text := text.splitAt (leading text)

/-- The sign of an inequality, with the spaces around it. -/
def unequalSign : Text := " != ".toList

/-- **The first `a != b` of a line as `!a.equals(b)`.** A line without the sign, or with an empty
operand beside it, stays as it is. -/
def valueEquality (line : Text) : Text :=
  match Text.cut? unequalSign line with
  | none => line
  | some (before, found) =>
    let (start, left) := splitTrailing before
    let (right, rest) := splitLeading (found.drop unequalSign.length)
    if left.isEmpty || right.isEmpty then line
    else start ++ '!' :: left ++ ".equals(".toList ++ right ++ ')' :: rest

/-- **A cast in front of the receiver of the first call of an accessor.** A line without such a
call, or with a call that has no receiver, stays as it is. -/
def insertCast (line accessor cast : Text) : Text :=
  match Text.cut? ('.' :: accessor ++ ['(']) line with
  | none => line
  | some (before, found) =>
    let (start, receiver) := splitTrailing before
    if receiver.isEmpty then line else start ++ cast ++ receiver ++ found

end Siblings.Operand
