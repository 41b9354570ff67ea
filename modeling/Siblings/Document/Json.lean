import Siblings.Document.Value

/-!
# Writing JSON

Documents are written over several lines, with two spaces for each level.
-/

namespace Siblings.Json

/-- The digits of a code point in four places. -/
def fourDigits (n : Nat) : Text :=
  let digits := Text.ofNatHex n
  List.replicate (4 - digits.length) '0' ++ digits

/-- A character of a string. -/
def escapeChar (c : Char) : Text :=
  match c with
  | '"' => ['\\', '"']
  | '\\' => ['\\', '\\']
  | '\n' => ['\\', 'n']
  | '\r' => ['\\', 'r']
  | '\t' => ['\\', 't']
  | '\x08' => ['\\', 'b']
  | '\x0c' => ['\\', 'f']
  | c => if c.toNat < 0x20 then "\\u".toList ++ fourDigits c.toNat else [c]

/-- A string between quotes. -/
def string (text : Text) : Text := '"' :: text.flatMap escapeChar ++ ['"']

/-- The text of a scalar. -/
def scalar : Value → Text
  | .bool b => if b then "true".toList else "false".toList
  | .integer n => Text.ofInt n
  | .float x => x.render
  | .string text => string text
  | .moment text => string text
  | _ => "null".toList

/-- A line end, and the spaces of a level. -/
def lineAt (level : Nat) : Text := '\n' :: List.replicate (2 * level) ' '

mutual

/-- A document over several lines, where the first stands at a level. -/
def prettyAt (level : Nat) : Value → Text
  | .array [] => "[]".toList
  | .array items => '[' :: prettyItems (level + 1) items ++ lineAt level ++ [']']
  | .table [] => ['{', '}']
  | .table entries => '{' :: prettyEntries (level + 1) entries ++ lineAt level ++ ['}']
  | value => scalar value

/-- The items of an array, each on its own lines. -/
def prettyItems (level : Nat) : List Value → Text
  | [] => []
  | [item] => lineAt level ++ prettyAt level item
  | item :: items => lineAt level ++ prettyAt level item ++ ',' :: prettyItems level items

/-- The entries of a table, each on its own lines. -/
def prettyEntries (level : Nat) : List (Text × Value) → Text
  | [] => []
  | [(key, value)] => lineAt level ++ string key ++ ": ".toList ++ prettyAt level value
  | (key, value) :: entries =>
    lineAt level ++ string key ++ ": ".toList ++ prettyAt level value ++
      ',' :: prettyEntries level entries

end

/-- **A document over several lines.** -/
def pretty (value : Value) : Text := prettyAt 0 value

end Siblings.Json
