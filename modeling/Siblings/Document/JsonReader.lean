import Siblings.Document.Json
import Siblings.Toml.Quotation

/-!
# Reading JSON

The program writes JSON and leaves the reading to others. This is such a reader, to say of a text
what document it holds.

* `Json.read?`: **reads a text,** of all JSON but numbers and escaped halves of characters.
-/

namespace Siblings.Json

open Toml (put unicode?)

/-- White space between the parts of a document. -/
def isSpace (c : Char) : Bool := c == ' ' || c == '\n' || c == '\r' || c == '\t'

/-- A text without the white space at its start. -/
def skip (text : Text) : Text := text.dropWhile isSpace

/-- The character of an escape of one letter. -/
def unescape? : Char → Option Char
  | '"' => some '"'
  | '\\' => some '\\'
  | '/' => some '/'
  | 'b' => some '\x08'
  | 'f' => some '\x0c'
  | 'n' => some '\n'
  | 'r' => some '\r'
  | 't' => some '\t'
  | _ => none

/-- Reads a string behind its opening quote, and gives what follows the closing one. -/
def string? : Text → Option (Text × Text)
  | [] => none
  | '"' :: rest => some ([], rest)
  | '\\' :: 'u' :: a :: b :: c :: d :: rest => put (unicode? [a, b, c, d]) (string? rest)
  | '\\' :: c :: rest => put (unescape? c) (string? rest)
  | c :: rest => if 0x20 ≤ c.toNat && c != '\\' then put (some c) (string? rest) else none

/-- Reads a key and the colon behind it. -/
def key? (text : Text) : Option (Text × Text) :=
  match skip text with
  | '"' :: rest => do
    let (key, rest) ← string? rest
    match skip rest with
    | ':' :: rest => some (key, rest)
    | _ => none
  | _ => none

mutual

/-- Reads a value, and gives what follows. The number bounds the length of the text. -/
def value? : Nat → Text → Option (Value × Text)
  | 0, _ => none
  | n + 1, text =>
    match skip text with
    | 'n' :: 'u' :: 'l' :: 'l' :: rest => some (.null, rest)
    | 't' :: 'r' :: 'u' :: 'e' :: rest => some (.bool true, rest)
    | 'f' :: 'a' :: 'l' :: 's' :: 'e' :: rest => some (.bool false, rest)
    | '"' :: rest => (string? rest).map fun (text, rest) => (.string text, rest)
    | '[' :: rest =>
      match skip rest with
      | ']' :: rest => some (.array [], rest)
      | rest => do
        let (item, rest) ← value? n rest
        let (items, rest) ← items? n rest
        some (.array (item :: items), rest)
    | '{' :: rest =>
      match skip rest with
      | '}' :: rest => some (.table [], rest)
      | rest => do
        let (key, rest) ← key? rest
        let (value, rest) ← value? n rest
        let (entries, rest) ← entries? n rest
        some (.table ((key, value) :: entries), rest)
    | _ => none

/-- Reads the items of an array behind one of them. -/
def items? : Nat → Text → Option (List Value × Text)
  | 0, _ => none
  | n + 1, text =>
    match skip text with
    | ']' :: rest => some ([], rest)
    | ',' :: rest => do
      let (item, rest) ← value? n rest
      let (items, rest) ← items? n rest
      some (item :: items, rest)
    | _ => none

/-- Reads the entries of a table behind one of them. -/
def entries? : Nat → Text → Option (List (Text × Value) × Text)
  | 0, _ => none
  | n + 1, text =>
    match skip text with
    | '}' :: rest => some ([], rest)
    | ',' :: rest => do
      let (key, rest) ← key? rest
      let (value, rest) ← value? n rest
      let (entries, rest) ← entries? n rest
      some ((key, value) :: entries, rest)
    | _ => none

end

/-- **Reads a text.** -/
def read? (text : Text) : Option Value :=
  match value? text.length text with
  | some (value, rest) => if (skip rest).isEmpty then some value else none
  | none => none

/-! Behind its first character a part is read in one way only. -/

theorem key?_quote (text : Text) :
    key? ('"' :: text) = (do
      let (key, rest) ← string? text
      match skip rest with
      | ':' :: rest => some (key, rest)
      | _ => none) :=
  rfl

theorem value?_quote (n : Nat) (text : Text) :
    value? (n + 1) ('"' :: text) =
      (string? text).map fun (text, rest) => (.string text, rest) :=
  rfl

theorem value?_bracket (n : Nat) (text : Text) :
    value? (n + 1) ('[' :: text) =
      (match skip text with
      | ']' :: rest => some (.array [], rest)
      | rest => do
        let (item, rest) ← value? n rest
        let (items, rest) ← items? n rest
        some (.array (item :: items), rest)) :=
  rfl

theorem value?_brace (n : Nat) (text : Text) :
    value? (n + 1) ('{' :: text) =
      (match skip text with
      | '}' :: rest => some (.table [], rest)
      | rest => do
        let (key, rest) ← key? rest
        let (value, rest) ← value? n rest
        let (entries, rest) ← entries? n rest
        some (.table ((key, value) :: entries), rest)) :=
  rfl

theorem items?_comma (n : Nat) (text : Text) :
    items? (n + 1) (',' :: text) = (do
      let (item, rest) ← value? n text
      let (items, rest) ← items? n rest
      some (item :: items, rest)) :=
  rfl

theorem entries?_comma (n : Nat) (text : Text) :
    entries? (n + 1) (',' :: text) = (do
      let (key, rest) ← key? text
      let (value, rest) ← value? n rest
      let (entries, rest) ← entries? n rest
      some ((key, value) :: entries, rest)) :=
  rfl

end Siblings.Json
