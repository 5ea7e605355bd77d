/-!
# Whole numbers in texts

Settings and wire fields carry whole numbers as decimal texts: an optional sign, then at least one
ASCII digit, and nothing else. A text that is no such number, or whose number does not fit, is
refused with its cause.

* `readInt`: a number between two bounds.
* `readNat?`: a number without a minus sign, below a bound.
-/

namespace GceMachines.Text

/-- Why a text is not a number of the wanted range. -/
inductive IntegerError
  | empty
  | invalidDigit
  | tooLarge
  | tooSmall
  deriving DecidableEq, Repr

/-- The wording of a refusal. -/
def IntegerError.message : IntegerError → String
  | .empty => "cannot parse integer from empty string"
  | .invalidDigit => "invalid digit found in string"
  | .tooLarge => "number too large to fit in target type"
  | .tooSmall => "number too small to fit in target type"

/-- The value of an ASCII digit. -/
def digit? (c : Char) : Option Nat :=
  if '0' ≤ c && c ≤ '9' then some (c.toNat - 48) else none

/-- Digits appended to a number while it stays within the bound. -/
def readDigits (fits : Nat → Bool) (overflow : IntegerError) :
    Nat → List Char → Except IntegerError Nat
  | n, [] => .ok n
  | n, c :: cs =>
    match digit? c with
    | none => .error .invalidDigit
    | some d => if fits (10 * n + d) then readDigits fits overflow (10 * n + d) cs
        else .error overflow

/-- Reads a number from `low` to `high`; a sign alone is no number. -/
def readInt (low high : Int) (s : String) : Except IntegerError Int :=
  match s.toList with
  | [] => .error .empty
  | ['+'] => .error .invalidDigit
  | ['-'] => .error .invalidDigit
  | '+' :: cs => (readDigits (fun n => (n : Int) ≤ high) .tooLarge 0 cs).map (·)
  | '-' :: cs =>
    (readDigits (fun n => low ≤ -(n : Int)) .tooSmall 0 cs).map fun n => -(n : Int)
  | cs => (readDigits (fun n => (n : Int) ≤ high) .tooLarge 0 cs).map (·)

/-- Reads a number below `bound`; a plus sign may stand before it. -/
def readNat? (bound : Nat) (s : String) : Option Nat :=
  let digits (cs : List Char) := (readDigits (· < bound) .tooLarge 0 cs).toOption
  match s.toList with
  | [] => none
  | '+' :: [] => none
  | '+' :: cs => digits cs
  | cs => digits cs

end GceMachines.Text
