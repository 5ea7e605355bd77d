import GceMachines.Json.Fault
import GceMachines.Text.Digits

/-!
# Plain scalars

A scalar without quotes may stand for nothing, for a truth value or for a number. Otherwise it is
its text.

* `Plain.ofText`: what a plain scalar stands for.
* `Plain.found`: what messages call it.
-/

namespace GceMachines.Yaml

/-- **A number with a point or an exponent**, and what is written like one. -/
inductive Floating
  | finite (x : Decimal.Binary64)
  | infinite (negative : Bool)
  | notNumber
  deriving DecidableEq, Repr

/-- How messages write such a number, without an exponent. -/
def Floating.text : Floating → String
  | finite x => x.text Decimal.Layout.positional
  | infinite negative => if negative then "-inf" else "inf"
  | notNumber => "NaN"

/-- **What a plain scalar stands for.** -/
inductive Plain
  | nothing
  | bool (b : Bool)
  /-- A whole number of 64 bits, with or without a sign. -/
  | int (n : Int)
  /-- A whole number of 128 bits that does not fit in 64. -/
  | wide (n : Int)
  | float (x : Floating)
  | text (s : String)
  deriving DecidableEq, Repr

namespace Plain

/-- Digits of a base as a number; there is at least one. -/
def natural? (base : Nat) (cs : List Char) : Option Nat :=
  if cs.isEmpty then none else Text.ofDigits? base cs

/-- A number behind `0x`, `0o` or `0b`. -/
def based? : List Char → Option Nat
  | '0' :: 'x' :: cs => natural? 16 cs
  | '0' :: 'o' :: cs => natural? 8 cs
  | '0' :: 'b' :: cs => natural? 2 cs
  | _ => none

/-- A text without a sign in front. -/
def unsigned : List Char → List Char
  | '+' :: cs => cs
  | '-' :: cs => cs
  | cs => cs

/-- Whether digits begin with a zero that no number begins with. -/
def isPadded (cs : List Char) : Bool :=
  match unsigned cs with
  | '0' :: c :: cs => (c :: cs).all Char.isDigit
  | _ => false

/-- A whole number, in base ten or another base. -/
def whole? (cs : List Char) : Option Int :=
  let positive (cs : List Char) : Option Int :=
    ((based? cs).or (natural? 10 cs)).map fun n => (n : Int)
  if isPadded cs then none
  else match cs with
    | '-' :: cs => (positive cs).map (- ·)
    | '+' :: cs => positive cs
    | cs => positive cs

/-- The finite double nearest to a decimal number; a number far below all others is zero. -/
def nearest? (negative : Bool) (digits : List Char) (exponent : Int) :
    Option Decimal.Binary64 :=
  let n := (natural? 10 digits).getD 0
  let size : Int := (Nat.toDigits 10 n).length + exponent
  let magnitude : Option Decimal.Magnitude :=
    if n = 0 || size < -400 then some .zero
    else if 400 < size then none
    else Decimal.Magnitude.ofDecimal? n exponent
  magnitude.map fun m => ⟨negative, m⟩

/-- The exponent at the front, with nothing behind it. -/
def exponent? : List Char → Option Int
  | [] => some 0
  | c :: cs =>
    if c == 'e' || c == 'E' then
      match cs with
      | '-' :: ds => (natural? 10 ds).map fun n => -(n : Int)
      | '+' :: ds => (natural? 10 ds).map fun n => (n : Int)
      | ds => (natural? 10 ds).map fun n => (n : Int)
    else none

/-- A decimal number: digits, of which some may stand behind a point, and an exponent. -/
def decimal? (negative : Bool) (cs : List Char) : Option Decimal.Binary64 :=
  let before := cs.takeWhile Char.isDigit
  let rest := cs.dropWhile Char.isDigit
  let (behind, rest) := match rest with
    | '.' :: r => (r.takeWhile Char.isDigit, r.dropWhile Char.isDigit)
    | r => ([], r)
  if before.isEmpty && behind.isEmpty then none
  else (exponent? rest).bind fun e => nearest? negative (before ++ behind) (e - behind.length)

/-- The spellings of infinity. -/
def infinities : List String := [".inf", ".Inf", ".INF"]

/-- The spellings of what is no number. -/
def notNumbers : List String := [".nan", ".NaN", ".NAN"]

/-- A number with a point or an exponent. -/
def float? (s : String) : Option Floating :=
  let infinity (negative : Bool) (cs : List Char) : Option Floating :=
    if String.ofList cs ∈ infinities then some (.infinite negative) else none
  let number (negative : Bool) (cs : List Char) : Option Floating :=
    (infinity negative cs).or ((decimal? negative cs).map .finite)
  if s ∈ notNumbers then some .notNumber
  else match s.toList with
    | '+' :: cs => number false cs
    | '-' :: cs => number true cs
    | cs => number false cs

/-- **What a plain scalar stands for.** -/
def ofText (s : String) : Plain :=
  if s ∈ ["", "null", "Null", "NULL", "~"] then nothing
  else if s ∈ ["true", "True", "TRUE"] then bool true
  else if s ∈ ["false", "False", "FALSE"] then bool false
  else
    let fits (low high : Int) (n : Int) : Bool := low ≤ n && n < high
    match (whole? s.toList).filter (fits (-Nat.pow 2 127) (Nat.pow 2 128)) with
    | some n => if fits (-Nat.pow 2 63) (Nat.pow 2 64) n then int n else wide n
    | none =>
      match if isPadded s.toList then none else float? s with
      | some x => float x
      | none => text s

/-- How messages call what was found. -/
def found : Plain → String
  | nothing => "unit value"
  | bool b => (Json.Found.bool b).text
  | int n => (Json.Found.number (.int n)).text
  | wide n => "integer `" ++ toString n ++ "` as " ++ (if n < 0 then "i128" else "u128")
  | float x => "floating point `" ++ x.text ++ "`"
  | text s => (Json.Found.string s).text

end Plain

end GceMachines.Yaml
