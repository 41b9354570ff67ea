import Siblings.Toml.Assembly
import Siblings.Toml.Scalar

/-!
# Reading TOML

A TOML text is a list of statements, one on a line; values may go on over several lines.

* `Toml.value?`: reads a value at the start of a text.
* `Toml.statements?`: the statements of a text.
* `Toml.parse?`: the document of a text.
-/

namespace Siblings.Toml

/-- A text without the spaces at its start. -/
def dropSpaces (text : Text) : Text := text.dropWhile isSpace

/-- A text without the spaces, line ends and comments at its start. -/
def dropFillerFrom : Bool → Text → Text
  | _, [] => []
  | true, '\n' :: rest => dropFillerFrom false rest
  | true, '\r' :: '\n' :: rest => dropFillerFrom false rest
  | true, c :: rest => if isPlain c then dropFillerFrom true rest else c :: rest
  | false, '\n' :: rest => dropFillerFrom false rest
  | false, '\r' :: '\n' :: rest => dropFillerFrom false rest
  | false, c :: rest =>
    if isSpace c then dropFillerFrom false rest
    else if c = '#' then dropFillerFrom true rest
    else c :: rest

/-- A text without the spaces, line ends and comments at its start. -/
def dropFiller (text : Text) : Text := dropFillerFrom false text

/-- What follows the end of a line, which may hold a comment. -/
def endLine? (text : Text) : Option Text :=
  let rest :=
    match dropSpaces text with
    | '#' :: comment => comment.dropWhile isPlain
    | rest => rest
  if rest.isEmpty then some [] else newline? rest

/-- A character of a key without quotes. -/
def isBareKeyChar (c : Char) : Bool := c.isAlphanum || c == '_' || c == '-'

/-- Reads one key. -/
def key? : Text → Option (Text × Text)
  | '"' :: rest => basic? rest
  | '\'' :: rest => literal? rest
  | text =>
    let key := text.takeWhile isBareKeyChar
    if key.isEmpty then none else some (key, text.dropWhile isBareKeyChar)

/-- How deep values may be nested, and how many keys a path may have. -/
def deepest : Nat := 80

/-- Reads keys with dots between them, at most `fuel`. -/
def keysFrom (text : Text) : Nat → Option (List Text × Text)
  | 0 => none
  | fuel + 1 => do
    let (key, rest) ← key? (dropSpaces text)
    match dropSpaces rest with
    | '.' :: rest => (keysFrom rest fuel).map fun (keys, rest) => (key :: keys, rest)
    | rest => some ([key], rest)

/-- **Reads a path of keys.** -/
def keys? (text : Text) : Option (List Text × Text) := keysFrom text deepest

/-- A character of a bare scalar. -/
def isBareChar (c : Char) : Bool :=
  c.isAlphanum || c == '+' || c == '-' || c == '_' || c == '.' || c == ':'

/-- Reads a bare scalar. A date may be followed by a space and a time. -/
def bare? (text : Text) : Option (Value × Text) :=
  let word := text.takeWhile isBareChar
  let rest := text.dropWhile isBareChar
  let (word, rest) :=
    match afterDate? word, rest with
    | some [], ' ' :: c :: more =>
      if c.isDigit then
        (word ++ ' ' :: (c :: more).takeWhile isBareChar, (c :: more).dropWhile isBareChar)
      else (word, rest)
    | _, _ => (word, rest)
  (scalar? word).map fun value => (value, rest)

mutual

/-- Reads a value, at most `fuel` long, with room for `room` levels of nesting. -/
def valueFrom : Nat → Nat → Text → Option (Value × Text)
  | 0, _, _ => none
  | fuel + 1, room, text =>
    let quoted (read : Option (Text × Text)) : Option (Value × Text) :=
      read.map fun (string, rest) => (.string string, rest)
    match text, room with
    | '"' :: '"' :: '"' :: rest, _ => quoted (basicLines? rest)
    | '\'' :: '\'' :: '\'' :: rest, _ => quoted (literalLines? rest)
    | '"' :: rest, _ => quoted (basic? rest)
    | '\'' :: rest, _ => quoted (literal? rest)
    | '[' :: _, 0 => none
    | '{' :: _, 0 => none
    | '[' :: rest, room + 1 =>
      (itemsFrom fuel room rest).map fun (items, rest) => (.array items, rest)
    | '{' :: rest, room + 1 => do
      let (assignments, rest) ← assignmentsFrom fuel room rest
      let table ← tableOf? assignments
      return (table, rest)
    | text, _ => bare? text

/-- Reads the items of an array, up to the bracket that closes it. -/
def itemsFrom : Nat → Nat → Text → Option (List Value × Text)
  | 0, _, _ => none
  | fuel + 1, room, text =>
    match dropFiller text with
    | ']' :: rest => some ([], rest)
    | text => do
      let (item, rest) ← valueFrom fuel room text
      match dropFiller rest with
      | ']' :: rest => some ([item], rest)
      | ',' :: rest =>
        let (items, rest) ← itemsFrom fuel room rest
        return (item :: items, rest)
      | _ => none

/-- Reads the assignments of a table, up to the brace that closes it. -/
def assignmentsFrom : Nat → Nat → Text → Option (List (List Text × Value) × Text)
  | 0, _, _ => none
  | fuel + 1, room, text =>
    match dropFiller text with
    | '}' :: rest => some ([], rest)
    | text => do
      let (path, rest) ← keys? text
      let rest ← after? '=' rest
      let (value, rest) ← valueFrom fuel room (dropSpaces rest)
      match dropFiller rest with
      | '}' :: rest => some ([(path, value)], rest)
      | ',' :: rest =>
        let (assignments, rest) ← assignmentsFrom fuel room rest
        return ((path, value) :: assignments, rest)
      | _ => none

end

/-- **Reads a value** at the start of a text. -/
def value? (text : Text) : Option (Value × Text) := valueFrom (text.length + 1) deepest text

/-- Reads a statement. -/
def statement? : Text → Option (Statement × Text)
  | '[' :: '[' :: rest => do
    let (path, rest) ← keys? rest
    let rest ← after? ']' rest
    let rest ← after? ']' rest
    return (.element path, rest)
  | '[' :: rest => do
    let (path, rest) ← keys? rest
    let rest ← after? ']' rest
    return (.header path, rest)
  | text => do
    let (path, rest) ← keys? text
    let rest ← after? '=' rest
    let (value, rest) ← value? (dropSpaces rest)
    return (.assign path value, rest)

/-- Reads statements, at most `fuel`. -/
def statementsFrom (text : Text) : Nat → Option (List Statement)
  | 0 => none
  | fuel + 1 =>
    match dropFiller text with
    | [] => some []
    | text => do
      let (statement, rest) ← statement? text
      let rest ← endLine? rest
      let statements ← statementsFrom rest fuel
      return statement :: statements

/-- **The statements of a text.** A byte order mark at its start is passed over. -/
def statements? : Text → Option (List Statement)
  | '\uFEFF' :: rest => statementsFrom rest (rest.length + 1)
  | text => statementsFrom text (text.length + 1)

/-- **The document of a text,** or nothing if the text is malformed. -/
def parse? (text : Text) : Option Value := do
  let statements ← statements? text
  Statement.assemble statements

end Siblings.Toml
