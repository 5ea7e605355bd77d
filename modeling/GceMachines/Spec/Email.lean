/-!
# Addresses of accounts

An address is scanned once from the left: the part before the `@`, then the labels of the domain.
The scanner remembers where it is, and of the label it is in how long it is, whether it holds
letters only, and whether another label stands before it.

* `Email.isAddress`: whether a text is an address.
* `refused_run`: nothing mends a refused beginning.
-/

namespace GceMachines.Email

/-- Where the scanner is. -/
inductive State
  | start
  /-- Behind at least one character of the local part. -/
  | localPart
  /-- In a label of the domain: whether it is the first one, whether it holds letters only so far,
  and how long it is. -/
  | label (first lettersOnly : Bool) (length : Nat)
  | refused
  deriving DecidableEq, Repr

/-- Whether a character may stand in a label. -/
def isLabelChar (c : Char) : Bool := c.isAlphanum || c == '-'

/-- One character more. -/
def step : State → Char → State
  | .start, c => if c == '@' then .refused else .localPart
  | .localPart, c => if c == '@' then .label true true 0 else .localPart
  | .label first lettersOnly length, c =>
    if c == '.' then if length == 0 then .refused else .label false true 0
    else if isLabelChar c then .label first (lettersOnly && c.isAlpha) (length + 1)
    else .refused
  | .refused, _ => .refused

/-- Whether a text may end here: in a label behind another one that has two letters at least and
nothing but letters. -/
def State.final : State → Bool
  | .label false true length => 2 ≤ length
  | _ => false

/-- The state behind characters. -/
def run (s : State) (cs : List Char) : State := cs.foldl step s

/-- **Whether a text is the address of an account.** -/
def isAddress (text : String) : Bool := (run .start text.toList).final

theorem refused_run (cs : List Char) : run .refused cs = .refused := by
  induction cs with
  | nil => rfl
  | cons c cs ih => simpa [run, step] using ih

end GceMachines.Email
