import GceMachines.Text.Blank
import GceMachines.Text.Calendar

/-!
# Moments

A moment is written as a date, a time of day and the distance of the local time from universal
time, such as `2024-02-29T12:00:00.5+01:00`. Blanks may stand between the parts, and a blank may
stand in the place of the letter. A minute may end with a leap second.

* `Moment.parse`: the moment of a text.
* `MomentFault`: why a text is no moment.
-/

namespace GceMachines.Text

/-- **Why a text is no moment.** -/
inductive MomentFault
  | outOfRange
  | invalid
  | tooShort
  | tooLong
  deriving DecidableEq, Repr

/-- The wording of a fault. -/
def MomentFault.message : MomentFault → String
  | .outOfRange => "input is out of range"
  | .invalid => "input contains invalid characters"
  | .tooShort => "premature end of input"
  | .tooLong => "trailing input"

namespace Moment

/-- What is read from the front of a text, and what follows it. -/
abbrev Reading (α : Type) : Type := Except MomentFault (α × List Char)

/-- The number at the front, of at most some digits. -/
def number (most : Nat) (cs : List Char) : Reading Nat :=
  let digits := (cs.take most).takeWhile Char.isDigit
  if cs.isEmpty then .error .tooShort
  else if digits.isEmpty then .error .invalid
  else .ok ((ofDigits? 10 digits).getD 0, cs.drop digits.length)

/-- A number of one or two digits in a range, behind blanks. -/
def part (low high : Nat) (cs : List Char) : Reading Nat :=
  (number 2 (cs.dropWhile isBlank)).bind fun (n, rest) =>
    if low ≤ n && n ≤ high then .ok (n, rest) else .error .outOfRange

/-- What follows a sign, behind blanks. -/
def sign (c : Char) (cs : List Char) : Except MomentFault (List Char) :=
  match cs.dropWhile isBlank with
  | [] => .error .tooShort
  | x :: rest => if x = c then .ok rest else .error .invalid

/-- The year that is farthest from the beginning of the calendar. -/
def lastYear : Nat := 262142

/-- A year. One with a sign may have any number of digits. -/
def year (cs : List Char) : Reading Int :=
  let cs := cs.dropWhile isBlank
  let read : Reading Int := match cs with
    | '-' :: rest => (number rest.length rest).map fun (n, rest) => (-(n : Int), rest)
    | '+' :: rest => (number rest.length rest).map fun (n, rest) => ((n : Int), rest)
    | _ => (number 4 cs).map fun (n, rest) => ((n : Int), rest)
  read.bind fun (n, rest) =>
    if n.natAbs ≤ Nat.pow 2 31 then .ok (n, rest) else .error .outOfRange

/-- What follows the parts of a second, if there are any. -/
def afterFraction (cs : List Char) : Except MomentFault (List Char) :=
  match cs with
  | '.' :: rest => (number 9 rest).map fun (_, rest) => rest.dropWhile Char.isDigit
  | _ => .ok cs

/-- The value of two digits at the front, if both are digits. -/
def pair (cs : List Char) : Except MomentFault (Option (Nat × Nat)) :=
  match cs with
  | a :: b :: _ =>
    .ok ((digitOf? 10 a).bind fun m => (digitOf? 10 b).map fun n => (m, n))
  | [c] => if c.utf8Size < 2 then .error .tooShort else .ok none
  | [] => .error .tooShort

/-- The distance from universal time, in seconds. -/
def offset (cs : List Char) : Except MomentFault (Int × List Char) := do
  let (negative, rest) ← match cs with
    | [] => throw MomentFault.tooShort
    | '+' :: rest => pure (false, rest)
    | '-' :: rest => pure (true, rest)
    | '\u2212' :: rest => pure (true, rest)
    | _ => throw MomentFault.invalid
  let some (a, b) ← pair rest | throw MomentFault.invalid
  let rest := (rest.drop 2).dropWhile fun c => c == ':' || isBlank c
  let some (c, d) ← pair rest | throw MomentFault.invalid
  if 6 ≤ c then throw MomentFault.outOfRange
  let seconds : Int := (a * 10 + b) * 3600 + (c * 10 + d) * 60
  return (if negative then -seconds else seconds, rest.drop 2)

/-- The distance from universal time, which may be named instead. -/
def zone (cs : List Char) : Reading Int :=
  match cs with
  | 'Z' :: rest => .ok (0, rest)
  | 'z' :: rest => .ok (0, rest)
  | cs => if (cs.take 3).map Char.toUpper = ['U', 'T', 'C'] then .ok (0, cs.drop 3) else offset cs

/-- The days from the beginning of 1970 to a date. Years are counted from March. -/
def daysSince1970 (year : Int) (month day : Nat) : Int :=
  let y := if month ≤ 2 then year - 1 else year
  let ofYear : Int := ((153 * ((month + 9) % 12) + 2) / 5 + day - 1 : Nat)
  365 * y + y / 4 - y / 100 + y / 400 + ofYear - 719468

/-- **The moment of a text**, in seconds since the beginning of 1970. -/
def parse (s : String) : Except MomentFault Int := do
  let (y, cs) ← year s.toList
  let (month, cs) ← part 1 12 (← sign '-' cs)
  let (day, cs) ← part 1 31 (← sign '-' cs)
  let cs ← match cs with
    | [] => throw .tooShort
    | c :: rest => if c ∈ ['T', 't', ' '] then pure rest else throw .invalid
  let (hour, cs) ← part 0 23 cs
  let (minute, cs) ← part 0 59 (← sign ':' cs)
  let (second, cs) ← part 0 60 (← sign ':' cs)
  let (ahead, cs) ← zone ((← afterFraction cs).dropWhile isBlank)
  if !(cs.dropWhile isBlank).isEmpty then throw .tooLong
  if lastYear < y.natAbs || !isDate (y % 400).toNat month day || 86400 ≤ ahead.natAbs then
    throw .outOfRange
  return daysSince1970 y month day * 86400 + hour * 3600 + minute * 60 + second - ahead

end Moment

end GceMachines.Text
