/-!
# Digits in a base

Numbers of addresses, chunks and tables are written in base eight, ten or sixteen, with letters of
either case as the digits from ten on.

* `digitOf?`: the value of one digit.
* `ofDigits?`: the number that digits stand for.
-/

namespace GceMachines.Text

/-- The value of a digit below a base. -/
def digitOf? (base : Nat) (c : Char) : Option Nat :=
  let value? : Option Nat :=
    if '0' ≤ c && c ≤ '9' then some (c.toNat - 48)
    else if 'a' ≤ c && c ≤ 'f' then some (c.toNat - 87)
    else if 'A' ≤ c && c ≤ 'F' then some (c.toNat - 55)
    else none
  value?.bind fun d => if d < base then some d else none

theorem digitOf?_lt {base d : Nat} {c : Char} (h : digitOf? base c = some d) : d < base := by
  obtain ⟨e, _, he⟩ := Option.bind_eq_some_iff.1 h
  split at he
  case isTrue hlt => simp_all
  case isFalse => simp at he

/-- The number that digits stand for; no digits stand for zero. -/
def ofDigits? (base : Nat) (cs : List Char) : Option Nat :=
  cs.foldlM (fun n c => (digitOf? base c).map fun d => n * base + d) 0

end GceMachines.Text
