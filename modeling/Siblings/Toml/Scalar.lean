import Siblings.Document.Value
import Siblings.Toml.Quotation

/-!
# Bare scalars of TOML

Truth values, numbers, dates and times are written without quotes. `scalar?` reads one from its
whole text.
-/

namespace Siblings.Toml

/-- The digits of a number. Between two of them one underscore may stand. -/
def digits? (isDigit : Char → Bool) : Text → Option Text
  | [] => none
  | [c] => if isDigit c then some [c] else none
  | c :: '_' :: rest => if isDigit c then (digits? isDigit rest).map (c :: ·) else none
  | c :: rest => if isDigit c then (digits? isDigit rest).map (c :: ·) else none

/-- The value of some digits. -/
def valueOf (base : Nat) (digits : Text) : Nat :=
  digits.foldl (fun n c => n * base + (hexDigit? c).getD 0) 0

/-- The sign of a number, if it has one, and the rest. -/
def splitSign : Text → Bool × Text
  | '-' :: rest => (true, rest)
  | '+' :: rest => (false, rest)
  | text => (false, text)

/-- The digits of a whole number, which starts with a zero only if it is zero. -/
def wholeDigits? (text : Text) : Option Text := do
  let digits ← digits? Char.isDigit text
  if digits.length > 1 && digits.head? == some '0' then none else some digits

/-- A whole number that fits 128 bits, with or without a sign. -/
def bounded? (n : Int) : Option Value :=
  if -0x80000000000000000000000000000000 ≤ n && n ≤ 0xFFFFFFFFFFFFFFFFFFFFFFFFFFFFFFFF then
    some (.integer n)
  else none

/-- **A whole number.** -/
def integer? (text : Text) : Option Value :=
  let isHex (c : Char) : Bool := (hexDigit? c).isSome
  match text with
  | '0' :: 'x' :: rest => (digits? isHex rest).bind fun d => bounded? (valueOf 16 d)
  | '0' :: 'o' :: rest =>
    (digits? (fun c => '0' ≤ c && c ≤ '7') rest).bind fun d => bounded? (valueOf 8 d)
  | '0' :: 'b' :: rest =>
    (digits? (fun c => c == '0' || c == '1') rest).bind fun d => bounded? (valueOf 2 d)
  | _ => do
    let (negative, rest) := splitSign text
    let digits ← wholeDigits? rest
    let n := valueOf 10 digits
    bounded? (if negative then -(n : Int) else n)

/-- The exponent of a number with a point. -/
def exponent? (text : Text) : Option Int := do
  let (negative, rest) := splitSign text
  let digits ← digits? Char.isDigit rest
  let n := valueOf 10 digits
  return if negative then -(n : Int) else n

/-- **A number with a point, an exponent, or both.** It must not be too large for binary64. -/
def decimal? (text : Text) : Option Value := do
  let (negative, rest) := splitSign text
  let isMark (c : Char) : Bool := c == 'e' || c == 'E'
  let significand := rest.takeWhile fun c => !isMark c
  let power := rest.dropWhile fun c => !isMark c
  let whole := significand.takeWhile (· != '.')
  let point := significand.dropWhile (· != '.')
  if power.isEmpty && point.isEmpty then none
  let wholeDigits ← wholeDigits? whole
  let places ← if point.isEmpty then some [] else digits? Char.isDigit point.tail
  let exponent ← if power.isEmpty then some 0 else exponent? power.tail
  let number : Decimal :=
    ⟨negative, valueOf 10 (wholeDigits ++ places), exponent - (places.length : Int)⟩
  if number.nearest.isNone then none else some (.float (.decimal number))

/-- A number that is none, or has no end. -/
def special? (text : Text) : Option Value :=
  let (negative, rest) := splitSign text
  if rest = "inf".toList then some (.float (.infinity negative))
  else if rest = "nan".toList then some (.float .nan)
  else none

/-- Digits of a date or a time, of a fixed number, at the start of a text. -/
def fixed? (count : Nat) (text : Text) : Option (Nat × Text) :=
  let digits := text.take count
  if digits.length = count && digits.all Char.isDigit then
    some (valueOf 10 digits, text.drop count)
  else none

/-- What follows a character, if a text starts with it. -/
def after? (c : Char) : Text → Option Text
  | d :: rest => if d = c then some rest else none
  | [] => none

/-- The days of a month. -/
def daysIn (year month : Nat) : Nat :=
  if month = 2 then
    if year % 4 = 0 && (year % 100 != 0 || year % 400 = 0) then 29 else 28
  else if month = 4 || month = 6 || month = 9 || month = 11 then 30
  else 31

/-- What follows a date. -/
def afterDate? (text : Text) : Option Text := do
  let (year, rest) ← fixed? 4 text
  let rest ← after? '-' rest
  let (month, rest) ← fixed? 2 rest
  let rest ← after? '-' rest
  let (day, rest) ← fixed? 2 rest
  if 1 ≤ month && month ≤ 12 && 1 ≤ day && day ≤ daysIn year month then some rest else none

/-- What follows the seconds of a time, if there are any, and their places. -/
def afterSeconds? (text : Text) : Option Text :=
  match text with
  | ':' :: rest => do
    let (second, rest) ← fixed? 2 rest
    if 60 < second then none
    match rest with
    | '.' :: rest =>
      if (rest.takeWhile Char.isDigit).isEmpty then none else some (rest.dropWhile Char.isDigit)
    | rest => some rest
  | rest => some rest

/-- What follows an hour and a minute. -/
def afterMinutes? (text : Text) : Option Text := do
  let (hour, rest) ← fixed? 2 text
  let rest ← after? ':' rest
  let (minute, rest) ← fixed? 2 rest
  if hour ≤ 23 && minute ≤ 59 then some rest else none

/-- What follows a time. -/
def afterTime? (text : Text) : Option Text := do
  let rest ← afterMinutes? text
  afterSeconds? rest

/-- Whether a text is empty or the offset of a time. -/
def isOffset : Text → Bool
  | [] => true
  | ['Z'] => true
  | ['z'] => true
  | c :: rest => (c == '+' || c == '-') && afterMinutes? rest == some []

/-- A date, a time, or both. -/
def moment? (text : Text) : Option Value :=
  let isDate :=
    match afterDate? text with
    | none => false
    | some [] => true
    | some (c :: rest) =>
      (c == 'T' || c == 't' || c == ' ') &&
        match afterTime? rest with
        | none => false
        | some rest => isOffset rest
  if isDate || afterTime? text == some [] then some (.moment text) else none

/-- **Reads a bare scalar.** -/
def scalar? (text : Text) : Option Value :=
  if text = "true".toList then some (.bool true)
  else if text = "false".toList then some (.bool false)
  else special? text <|> integer? text <|> decimal? text <|> moment? text

end Siblings.Toml
