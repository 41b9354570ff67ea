import Siblings.Text.Basic

/-!
# Quoted strings of TOML

A basic string stands between double quotes and has escapes, a literal string stands between
single quotes and has none. Three quotes on either side admit line ends.

Each reader takes what follows the opening quotes and gives the string with what follows the
closing ones, or nothing if the string is malformed.
-/

namespace Siblings.Toml

/-- A space or a tab. -/
def isSpace (c : Char) : Bool := c == ' ' || c == '\t'

/-- A character that comments and strings may hold: no control but the tab. -/
def isPlain (c : Char) : Bool := c == '\t' || (0x20 ≤ c.toNat && c.toNat != 0x7F)

/-- What follows a line end, if a text starts with one. -/
def newline? : Text → Option Text
  | '\n' :: rest => some rest
  | '\r' :: '\n' :: rest => some rest
  | _ => none

/-- The value of a hexadecimal digit. -/
def hexDigit? (c : Char) : Option Nat :=
  if c.isDigit then some (c.toNat - '0'.toNat)
  else if 'a' ≤ c && c ≤ 'f' then some (c.toNat - 'a'.toNat + 10)
  else if 'A' ≤ c && c ≤ 'F' then some (c.toNat - 'A'.toNat + 10)
  else none

/-- The character of a code point in hexadecimal. Surrogates are none. -/
def unicode? (digits : List Char) : Option Char := do
  let values ← digits.mapM hexDigit?
  let code := values.foldl (fun n d => n * 16 + d) 0
  if code.isValidChar then some (Char.ofNat code) else none

/-- The character of an escape of one letter. -/
def escape? : Char → Option Char
  | 'b' => some '\x08'
  | 't' => some '\t'
  | 'n' => some '\n'
  | 'f' => some '\x0c'
  | 'r' => some '\r'
  | 'e' => some '\x1b'
  | '"' => some '"'
  | '\\' => some '\\'
  | _ => none

/-- A character in front of what is read after it. -/
def put (c : Option Char) (more : Option (Text × Text)) : Option (Text × Text) :=
  match c, more with
  | some c, some (text, rest) => some (c :: text, rest)
  | _, _ => none

/-- **Reads a basic string.** -/
def basic? : Text → Option (Text × Text)
  | [] => none
  | '"' :: rest => some ([], rest)
  | '\\' :: 'x' :: a :: b :: rest => put (unicode? [a, b]) (basic? rest)
  | '\\' :: 'u' :: a :: b :: c :: d :: rest => put (unicode? [a, b, c, d]) (basic? rest)
  | '\\' :: 'U' :: a :: b :: c :: d :: e :: f :: g :: h :: rest =>
    put (unicode? [a, b, c, d, e, f, g, h]) (basic? rest)
  | '\\' :: c :: rest => put (escape? c) (basic? rest)
  | c :: rest => if isPlain c && c != '\\' then put (some c) (basic? rest) else none

/-- **Reads a literal string.** -/
def literal? : Text → Option (Text × Text)
  | [] => none
  | '\'' :: rest => some ([], rest)
  | c :: rest => if isPlain c then put (some c) (literal? rest) else none

/-- The quotes that stand before the closing ones: at most two, each part of the string. -/
def endQuotes (quote : Char) : Text → Text × Text
  | a :: b :: rest =>
    if a = quote then if b = quote then ([a, b], rest) else ([a], b :: rest)
    else ([], a :: b :: rest)
  | [a] => if a = quote then ([a], []) else ([], [a])
  | [] => ([], [])

/-- What a backslash at the end of a line does to the text after it. -/
inductive Joining where
  /-- Nothing: there is none. -/
  | off
  /-- Only spaces may stand before the line end. -/
  | awaiting
  /-- Spaces and line ends are passed over. -/
  | passing
  deriving DecidableEq

/-- Reads a basic string of several lines. -/
def basicLinesFrom : Joining → Text → Option (Text × Text)
  | _, [] => none
  | .awaiting, c :: rest =>
    if isSpace c then basicLinesFrom .awaiting rest
    else
      match c, rest with
      | '\n', rest => basicLinesFrom .passing rest
      | '\r', '\n' :: rest => basicLinesFrom .passing rest
      | _, _ => none
  | joining, c :: rest =>
    if joining = .passing && (isSpace c || c == '\n') then basicLinesFrom .passing rest
    else
      match c, rest with
      | '"', '"' :: '"' :: rest => some (endQuotes '"' rest)
      | '\r', '\n' :: rest =>
        if joining = .passing then basicLinesFrom .passing rest
        else put (some '\r') (put (some '\n') (basicLinesFrom .off rest))
      | '\\', 'x' :: a :: b :: rest => put (unicode? [a, b]) (basicLinesFrom .off rest)
      | '\\', 'u' :: a :: b :: c :: d :: rest =>
        put (unicode? [a, b, c, d]) (basicLinesFrom .off rest)
      | '\\', 'U' :: a :: b :: c :: d :: e :: f :: g :: h :: rest =>
        put (unicode? [a, b, c, d, e, f, g, h]) (basicLinesFrom .off rest)
      | '\\', c :: rest =>
        if c == '\n' then basicLinesFrom .passing rest
        else if isSpace c then basicLinesFrom .awaiting rest
        else if c == '\r' then
          match rest with
          | '\n' :: rest => basicLinesFrom .passing rest
          | _ => none
        else put (escape? c) (basicLinesFrom .off rest)
      | c, rest =>
        if c == '\n' || (isPlain c && c != '\\') then put (some c) (basicLinesFrom .off rest)
        else none

/-- Reads a literal string of several lines. -/
def literalLinesFrom : Text → Option (Text × Text)
  | [] => none
  | '\'' :: '\'' :: '\'' :: rest => some (endQuotes '\'' rest)
  | '\r' :: '\n' :: rest => put (some '\r') (put (some '\n') (literalLinesFrom rest))
  | c :: rest => if c == '\n' || isPlain c then put (some c) (literalLinesFrom rest) else none

/-- **Reads a basic string of several lines.** A line end right behind the quotes is not part of
it. -/
def basicLines? (text : Text) : Option (Text × Text) :=
  basicLinesFrom .off ((newline? text).getD text)

/-- **Reads a literal string of several lines.** A line end right behind the quotes is not part
of it. -/
def literalLines? (text : Text) : Option (Text × Text) :=
  literalLinesFrom ((newline? text).getD text)

end Siblings.Toml
