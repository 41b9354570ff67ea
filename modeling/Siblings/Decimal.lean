import Siblings.Text.Basic

/-!
# Decimal numbers

A decimal number is shown as the number that a binary64 holds in its place: the fewest digits
that read back as the same binary64, in positional notation, with at least one place after the
point. All arithmetic is exact, on natural numbers.

* `Decimal.nearest`: the binary64 nearest to a decimal, ties to the even one.
* `Binary64.shortest`: the shortest decimal that reads back.
-/

namespace Siblings

/-- **A decimal number** `± mantissa · 10 ^ exponent`. -/
structure Decimal where
  negative : Bool
  mantissa : Nat
  exponent : Int
  deriving DecidableEq, Repr

/-- A positive binary64 `mantissa · 2 ^ exponent`, whose mantissa has at most 53 bits. -/
structure Binary64 where
  mantissa : Nat
  exponent : Int
  deriving DecidableEq, Repr

/-- The least mantissa of 53 bits. -/
def leastMantissa : Nat := Nat.pow 2 52

/-- A power with a whole exponent, as a fraction. -/
def fractionPow (base : Nat) (exponent : Int) : Nat × Nat :=
  if exponent < 0 then (1, base.pow exponent.natAbs) else (base.pow exponent.natAbs, 1)

/-- A quotient rounded to the nearest whole number, ties to the even one. -/
def roundDiv (num den : Nat) : Nat :=
  let q := num / den
  let r := num % den
  if 2 * r < den || (2 * r == den && q % 2 == 0) then q else q + 1

namespace Decimal

/-- The binary64 nearest to a positive fraction, or nothing if it is too large. -/
def nearestFraction (num den : Nat) : Option Binary64 :=
  let guess : Int := (Nat.log2 num : Int) - Nat.log2 den - 52
  let at53 (e : Int) : Nat :=
    let (n, d) := fractionPow 2 e
    (num * d) / (den * n)
  let exact := if at53 guess < leastMantissa then guess - 1 else guess
  let exponent := max exact (-1074)
  let (n, d) := fractionPow 2 exponent
  let mantissa := roundDiv (num * d) (den * n)
  let (mantissa, exponent) :=
    if mantissa = 2 * leastMantissa then (leastMantissa, exponent + 1) else (mantissa, exponent)
  if 971 < exponent then none else some ⟨mantissa, exponent⟩

/-- The number of digits before the point, zero or less for a number below one tenth. -/
def magnitude (x : Decimal) : Int := (Nat.toDigits 10 x.mantissa).length + x.exponent

/-- **The binary64 nearest to the size of a decimal,** or nothing if it is too large. All numbers
below `10 ^ (-330)` are nearest to zero, and all from `10 ^ 310` on are too large. -/
def nearest (x : Decimal) : Option Binary64 :=
  if x.mantissa = 0 || x.magnitude < -330 then some ⟨0, 0⟩
  else if 310 < x.magnitude then none
  else
    let (n, d) := fractionPow 10 x.exponent
    nearestFraction (x.mantissa * n) d

end Decimal

namespace Binary64

/-- Whether `digits · 10 ^ place` reads back as a binary64: it lies between the halfway points to
the neighbours, which belong to an even mantissa. All is counted in quarters of a unit. -/
def readsBack (x : Binary64) (digits : Nat) (place : Int) : Bool :=
  let (n, d) := fractionPow 10 place
  let (un, ud) := fractionPow 2 x.exponent
  let value := 4 * digits * n * ud
  let unit := d * un
  let gap := if x.mantissa = leastMantissa && -1074 < x.exponent then 1 else 2
  let low := (4 * x.mantissa - gap) * unit
  let high := (4 * x.mantissa + 2) * unit
  if x.mantissa % 2 = 0 then low ≤ value && value ≤ high else low < value && value < high

/-- The number of decimal digits before the point, zero or less for a number below one tenth. -/
def magnitude (x : Binary64) : Int :=
  let (un, ud) := fractionPow 2 x.exponent
  let num := x.mantissa * un
  if ud ≤ num then (Nat.toDigits 10 (num / ud)).length
  else 1 - ((Nat.toDigits 10 ((ud + num - 1) / num - 1)).length : Int)

/-- The decimals of a number of places that read back, the nearest first. -/
def candidates (x : Binary64) (place : Int) : List Nat :=
  let (n, d) := fractionPow 10 place
  let (un, ud) := fractionPow 2 x.exponent
  let num := x.mantissa * un * d
  let den := ud * n
  let below := num / den
  let ordered :=
    if roundDiv num den = below then [below, below + 1] else [below + 1, below]
  ordered.filter (x.readsBack · place)

/-- A decimal without the zeros at its end, of which at most `fuel` go. -/
def dropZeros (digits : Nat) (place : Int) : Nat → Nat × Int
  | 0 => (digits, place)
  | fuel + 1 =>
    if digits % 10 = 0 then dropZeros (digits / 10) (place + 1) fuel else (digits, place)

/-- The shortest decimal that reads back, with at least `digits` digits and at most `fuel` more. -/
def shortestFrom (x : Binary64) (digits : Nat) : Nat → Nat × Int
  | 0 => (x.mantissa, x.exponent)
  | fuel + 1 =>
    let place := x.magnitude - digits
    match x.candidates place with
    | best :: _ => dropZeros best place digits
    | [] => x.shortestFrom (digits + 1) fuel

/-- **The shortest decimal that reads back,** as digits and the place of the last one. -/
def shortest (x : Binary64) : Nat × Int :=
  if x.mantissa = 0 then (0, 0) else x.shortestFrom 1 17

end Binary64

namespace Text

/-- Digits in positional notation, the last one at `place`, with a place after the point. -/
def positional (digits : Nat) (place : Int) : Text :=
  if 0 ≤ place then ofNat (digits * Nat.pow 10 place.natAbs) ++ ".0".toList
  else
    let places := place.natAbs
    let shown := ofNat digits
    let padded := List.replicate (places + 1 - shown.length) '0' ++ shown
    let whole := padded.length - places
    padded.take whole ++ '.' :: padded.drop whole

end Text

namespace Decimal

/-- **A decimal as its binary64 is shown.** -/
def render (x : Decimal) : Text :=
  let sign := if x.negative then ['-'] else []
  match x.nearest with
  | none => sign ++ "inf".toList
  | some y =>
    let (digits, place) := y.shortest
    sign ++ Text.positional digits place

end Decimal

end Siblings
