import GceMachines.Text.Digits

/-!
# Dates and times of day

Dates follow the Gregorian calendar, carried on before its beginning. A time of day has 24 hours
of 60 minutes of 60 seconds.

* `isDate`, `isTime`: the numbers that make up a date or a time of day.
* `digitsOf?`: a number of a fixed count of digits at the front of a text.
-/

namespace GceMachines.Text

/-- Whether a year has a day more. -/
def isLeapYear (year : Nat) : Bool := year % 4 == 0 && (year % 100 != 0 || year % 400 == 0)

/-- How many days a month has. -/
def daysInMonth (year month : Nat) : Nat :=
  if month = 2 then (if isLeapYear year then 29 else 28)
  else if month ∈ [4, 6, 9, 11] then 30
  else 31

/-- Whether three numbers are a date. -/
def isDate (year month day : Nat) : Bool :=
  1 ≤ month && month ≤ 12 && 1 ≤ day && day ≤ daysInMonth year month

/-- Whether three numbers are a time of day. -/
def isTime (hour minute second : Nat) : Bool := hour < 24 && minute < 60 && second < 60

/-- The number of `count` digits at the front of a text, and what follows them. -/
def digitsOf? (count : Nat) (cs : List Char) : Option (Nat × List Char) :=
  if cs.length < count then none
  else (ofDigits? 10 (cs.take count)).map fun n => (n, cs.drop count)

/-- The numbers of fixed counts of digits at the front of a text, and what follows them. -/
def digitRuns? : (counts : List Nat) → List Char → Option (List Nat × List Char)
  | [], cs => some ([], cs)
  | k :: ks, cs => do
    let (n, cs) ← digitsOf? k cs
    let (ns, cs) ← digitRuns? ks cs
    return (n :: ns, cs)

/-- Whether six numbers are a date and a time of day. -/
def isMoment : List Nat → Bool
  | [year, month, day, hour, minute, second] => isDate year month day && isTime hour minute second
  | _ => false

end GceMachines.Text
