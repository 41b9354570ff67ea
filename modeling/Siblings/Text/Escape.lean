import Siblings.Text.Width

/-!
# Escapes of a terminal

A terminal takes some sequences of characters as orders: to show what follows in a colour, for
instance. They take no columns, and a style that one of them asks for goes on until it is reset.

* `Text.escape?`: the escape at the start of a text.
* `Text.shownWidth`: the columns of a text without its escapes.
* `Text.restyle`: lines that each set and reset their own style.
-/

namespace Siblings.Text

/-- The character that starts an escape. -/
def escapeMark : Char := '\x1b'

/-- What stands behind an order with parameters: `[`, parameters, and the letter of the order. -/
def afterOrder : Text → Option Text
  | [] => none
  | c :: rest =>
    if '@' ≤ c && c ≤ '~' then some rest
    else if ' ' ≤ c && c ≤ '?' then afterOrder rest
    else none

/-- What stands behind an order with a text, which is closed by a bell or by an escape of its
own. -/
def afterMessage : Text → Option Text
  | [] => none
  | '\x07' :: rest => some rest
  | '\x1b' :: '\\' :: rest => some rest
  | '\x1b' :: _ => none
  | _ :: rest => afterMessage rest

/-- What stands behind an order of a few letters. -/
def afterLetters : Text → Option Text
  | [] => none
  | c :: rest =>
    if '0' ≤ c && c ≤ '~' then some rest
    else if ' ' ≤ c && c ≤ '/' then afterLetters rest
    else none

/-- What stands behind the escape at the start of a text. -/
def afterEscape? : Text → Option Text
  | '\x1b' :: '[' :: rest => afterOrder rest
  | '\x1b' :: ']' :: rest => afterMessage rest
  | '\x1b' :: rest => afterLetters rest
  | _ => none

/-- **The escape at the start of a text,** and what stands behind it. -/
def escape? (text : Text) : Option (Text × Text) :=
  (afterEscape? text).map fun rest => (text.take (text.length - rest.length), rest)

/-- The text that is shown, where `skip` characters belong to an escape that was found. An escape
that is not complete is shown without its mark. -/
def shownFrom : Nat → Text → Text
  | _, [] => []
  | skip + 1, _ :: rest => shownFrom skip rest
  | 0, c :: rest =>
    match escape? (c :: rest) with
    | some (escape, _) => shownFrom (escape.length - 1) rest
    | none => if c == escapeMark then shownFrom 0 rest else c :: shownFrom 0 rest

/-- **A text without its escapes.** -/
def shown (text : Text) : Text := shownFrom 0 text

/-- **The columns of a text without its escapes.** -/
def shownWidth (text : Text) : Nat := width (shown text)

/-- The escapes of a text, where `skip` characters belong to one that was found. -/
def escapesFrom : Nat → Text → List Text
  | _, [] => []
  | skip + 1, _ :: rest => escapesFrom skip rest
  | 0, c :: rest =>
    match escape? (c :: rest) with
    | some (escape, _) => escape :: escapesFrom (escape.length - 1) rest
    | none => escapesFrom 0 rest

/-- The escapes of a text. -/
def escapes (text : Text) : List Text := escapesFrom 0 text

/-- The escape that takes back what the ones before it asked for. -/
def resetStyle : Text := "\x1b[0m".toList

/-- The escapes that hold at the end of a line, where `held` are the ones at its start. -/
def styleAfter (held : List Text) (line : Text) : List Text :=
  (escapes line).foldl
    (fun held escape => if escape = resetStyle then [] else held ++ [escape]) held

/-- **Lines that each set and reset their own style,** where `held` is asked for at the start. -/
def restyle (held : List Text) : List Text → List Text
  | [] => []
  | line :: lines =>
    let after := styleAfter held line
    (held.flatten ++ line ++ if after.isEmpty then [] else resetStyle) :: restyle after lines

end Siblings.Text
