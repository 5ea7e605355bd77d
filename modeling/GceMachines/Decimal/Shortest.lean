import GceMachines.Decimal.Binary64

/-!
# Shortest decimals

A finite number is written with the fewest digits that read back as the same number, and of
those with the digits nearest to it. `shortest` tries one digit, then two, up to seventeen: on
each grid it looks at the two points next to the value, and takes the nearer one that rounds to it.

* `shortest`: the digits and the power of ten of the last one.
* `Notation.write`: the digits laid out, positionally for moderate exponents.
-/

namespace GceMachines.Decimal

/-- Digits and the exponent of the last of them: `digits * 10 ^ exponent`. -/
structure Scientific where
  digits : Nat
  exponent : Int
  deriving DecidableEq, Repr

namespace Scientific

/-- Trailing zeros of the digits moved into the exponent. -/
def normalize : Nat → Scientific → Scientific
  | 0, s => s
  | n + 1, s =>
    if s.digits != 0 && s.digits % 10 == 0 then normalize n ⟨s.digits / 10, s.exponent + 1⟩ else s

end Scientific

namespace Magnitude

/-- The power of ten of the first digit of a ratio that is not zero. -/
def leadingPower (num den : Nat) : Int :=
  let atLeast (p : Int) : Bool :=
    if 0 ≤ p then den * Nat.pow 10 p.toNat ≤ num else den ≤ num * Nat.pow 10 (-p).toNat
  let guess : Int := ((Nat.log2 num : Int) - (Nat.log2 den : Int)) * 30103 / 100000
  if atLeast (guess + 1) then guess + 1
  else if atLeast guess then guess
  else guess - 1

/-- The point with `n` digits nearest to `x` that reads back as `x`, if one does. -/
def onGrid? (x : Magnitude) (n : Nat) : Option Scientific :=
  let (num, den) := x.ratio
  let last : Int := leadingPower num den - ((n : Int) - 1)
  let (a, b) := if 0 ≤ last then (num, den * Nat.pow 10 last.toNat)
    else (num * Nat.pow 10 (-last).toNat, den)
  let low := a / b
  let reads (d : Nat) : Bool := ofDecimal? d last == some x
  let lowIsNear : Bool :=
    if 2 * (a % b) == b then low % 2 == 0 else 2 * (a % b) < b
  let (first, other) := if lowIsNear then (low, low + 1) else (low + 1, low)
  if reads first then some ⟨first, last⟩
  else if reads other then some ⟨other, last⟩
  else none

/-- **The shortest decimal** that reads back as a magnitude other than zero. -/
def shortest (x : Magnitude) : Scientific :=
  let found := (List.range 17).findSome? fun n => x.onGrid? (n + 1)
  (found.getD ⟨x.mant, 0⟩).normalize 400

end Magnitude

/-- How decimal digits are laid out: which exponents of the first digit are written
positionally, and the text before a positive exponent. -/
structure Layout where
  lowest : Int
  highest : Int
  plus : String

namespace Layout

/-- Decimals in messages and JSON: positional from 0.00001 up to sixteen digits before the
point, always with a digit after it; otherwise one digit before the point and a signed
exponent. -/
def json : Layout := ⟨-5, 15, "+"⟩

/-- Decimals without an exponent: no double has more digits before or behind its point. -/
def positional : Layout := ⟨-400, 400, ""⟩

/-- Lays out the digits of a magnitude. -/
def write (l : Layout) (s : Scientific) : String :=
  let ds := Nat.toDigits 10 s.digits
  let first : Int := s.exponent + (ds.length : Int) - 1
  if l.lowest ≤ first && first ≤ l.highest then
    if 0 ≤ s.exponent then
      String.ofList (ds ++ List.replicate s.exponent.toNat '0') ++ ".0"
    else if 0 ≤ first then
      String.ofList (ds.take (first.toNat + 1)) ++ "." ++ String.ofList (ds.drop (first.toNat + 1))
    else "0." ++ String.ofList (List.replicate ((-first).toNat - 1) '0' ++ ds)
  else
    let mantissa := match ds with
      | d :: [] => String.singleton d
      | d :: r => String.singleton d ++ "." ++ String.ofList r
      | [] => "0"
    let sign := if first < 0 then "-" else l.plus
    mantissa ++ "e" ++ sign ++ toString first.natAbs

end Layout

/-- The text of a finite number. -/
def Binary64.text (l : Layout) (x : Binary64) : String :=
  let body := if x.magnitude.mant == 0 then "0.0" else l.write x.magnitude.shortest
  if x.negative then "-" ++ body else body

end GceMachines.Decimal
