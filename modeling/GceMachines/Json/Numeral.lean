import GceMachines.Json.Document

/-!
# Numerals

A numeral is a sign, whole digits, and perhaps a fraction and an exponent. Its value keeps the
leading digits that fit 64 bits: a numeral of whole digits that all fit is a whole number, every
other one is a double, the kept digits times a power of ten. That product or quotient is rounded
once, and once more for each step of 308 places that it lies below the powers of ten.

* `Numeral.value`: the number a numeral stands for.
* `numeral`: the numeral at the front of a text.
-/

namespace GceMachines.Json

open Decimal (Magnitude Binary64)

/-- A numeral as written. -/
structure Numeral where
  negative : Bool
  whole : List Nat
  fraction : Option (List Nat)
  /-- Whether the exponent is negative, and its digits. -/
  exponent : Option (Bool × List Nat)
  deriving DecidableEq, Repr

namespace Numeral

/-- Digits appended to a number while it stays below `2 ^ 64`, and how many are left over. -/
def absorb (n : Nat) : List Nat → Nat × Nat
  | [] => (n, 0)
  | d :: ds => if 10 * n + d < Nat.pow 2 64 then absorb (10 * n + d) ds else (n, ds.length + 1)

theorem absorb_lt (n : Nat) (h : n < Nat.pow 2 64) (ds : List Nat) :
    (absorb n ds).1 < Nat.pow 2 64 := by
  induction ds generalizing n with
  | nil => exact h
  | cons d ds ih =>
    simp only [absorb]
    split
    case isTrue hlt => exact ih _ hlt
    case isFalse => exact h

/-- A magnitude divided by `10 ^ e`, in steps of at most 308 places. -/
def shrink : Nat → Magnitude → Nat → Magnitude
  | 0, f, _ => f
  | steps + 1, f, e =>
    let quotient (k : Nat) := ((Magnitude.pow10? k).bind f.div?).getD .zero
    if e ≤ 308 then quotient e
    else if f.mant == 0 then f
    else shrink steps (quotient 308) (e - 308)

/-- The double for `digits * 10 ^ e`. -/
def scaled (negative : Bool) (digits : Nat) (e : Int) : Except Fault Number :=
  let f := (Magnitude.ofNat? digits).getD .zero
  let number (m : Magnitude) : Except Fault Number := .ok (.float ⟨negative, m⟩)
  if e < 0 then number (shrink (e.natAbs / 308 + 1) f e.natAbs)
  else if f.mant == 0 then number f
  else if e ≤ 308 then
    match (Magnitude.pow10? e.toNat).bind f.mul? with
    | some m => number m
    | none => .error .numberOutOfRange
  else .error .numberOutOfRange

/-- The number that digits stand for. -/
def ofDigits (ds : List Nat) : Nat := ds.foldl (fun n d => 10 * n + d) 0

/-- The largest exponent that is followed up. -/
def exponentLimit : Nat := Nat.pow 2 31 - 1

/-- **The value of a numeral.** -/
def value (n : Numeral) : Except Fault Number :=
  let (whole, dropped) := absorb 0 n.whole
  match n.fraction, n.exponent with
  | none, none =>
    if dropped != 0 then scaled n.negative whole dropped
    else if !n.negative then .ok (.int whole)
    else if whole == 0 || Nat.pow 2 63 < whole then scaled true whole 0
    else .ok (.int (-(whole : Int)))
  | fraction, exponent =>
    let ds := fraction.getD []
    let (digits, lost) := absorb whole ds
    let place : Int := (dropped : Int) - ((ds.length : Int) - (lost : Int))
    match exponent with
    | none => scaled n.negative digits place
    | some (below, es) =>
      let e := ofDigits es
      if exponentLimit < e then
        if digits != 0 && !below then .error .numberOutOfRange
        else .ok (.float ⟨n.negative, .zero⟩)
      else scaled n.negative digits (if below then place - e else place + e)

end Numeral

/-- The value of an ASCII digit. -/
def digit? (b : UInt8) : Option Nat := if 0x30 ≤ b && b ≤ 0x39 then some (b.toNat - 0x30) else none

/-- The digits at the front of a text, and what follows them. -/
def digits : List UInt8 → List Nat × List UInt8
  | [] => ([], [])
  | b :: bs =>
    match digit? b with
    | none => ([], b :: bs)
    | some d => let (ds, rest) := digits bs; (d :: ds, rest)

theorem digits_length (bs : List UInt8) : (digits bs).2.length ≤ bs.length := by
  induction bs with
  | nil => simp [digits]
  | cons b bs ih =>
    simp only [digits]
    split
    · simp
    · simp only [List.length_cons]; omega

/-- At least one digit; otherwise the fault that a reader reports. -/
def someDigits (bs : List UInt8) : Except Fault (List Nat × List UInt8) :=
  match digits bs with
  | ([], []) => .error .endInValue
  | ([], _ :: _) => .error .invalidNumber
  | (d :: ds, rest) => .ok (d :: ds, rest)

/-- The exponent at the front of a text, if there is one. -/
def exponent : List UInt8 → Except Fault (Option (Bool × List Nat) × List UInt8)
  | b :: bs =>
    if b == 0x65 || b == 0x45 then
      let (below, rest) : Bool × List UInt8 := match bs with
        | s :: r => if s == 0x2D then (true, r) else if s == 0x2B then (false, r) else (false, bs)
        | [] => (false, [])
      (someDigits rest).map fun (ds, r) => (some (below, ds), r)
    else .ok (none, b :: bs)
  | [] => .ok (none, [])

/-- The fraction at the front of a text, if there is one. -/
def fraction : List UInt8 → Except Fault (Option (List Nat) × List UInt8)
  | b :: bs =>
    if b == 0x2E then (someDigits bs).map fun (ds, r) => (some ds, r) else .ok (none, b :: bs)
  | [] => .ok (none, [])

/-- Whole digits: a zero that no digit follows, or digits without a zero in front. -/
def wholeDigits (bs : List UInt8) : Except Fault (List Nat × List UInt8) :=
  match someDigits bs with
  | .error f => .error f
  | .ok (0 :: _ :: _, _) => .error .invalidNumber
  | .ok r => .ok r

/-- **The numeral at the front of a text**, and what follows it. -/
def numeral (bs : List UInt8) : Except Fault (Numeral × List UInt8) := do
  let (negative, bs) := match bs with
    | b :: r => if b == 0x2D then (true, r) else (false, b :: r)
    | [] => (false, [])
  let (whole, bs) ← wholeDigits bs
  let (fraction, bs) ← fraction bs
  let (exponent, bs) ← exponent bs
  return (⟨negative, whole, fraction, exponent⟩, bs)

/-- A numeral as a token. However it is misspelt, whoever passes over it calls it invalid. -/
def numberToken (bs : List UInt8) : Token Number × Option (List UInt8) :=
  match numeral bs with
  | .error f => (⟨.error f, .error .invalidNumber⟩, none)
  | .ok (n, rest) => (⟨n.value, .ok ()⟩, some rest)

end GceMachines.Json
