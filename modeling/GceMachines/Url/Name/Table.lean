import GceMachines.Text.Digits
import GceMachines.Text.Split

/-!
# Tables of characters

A table of characters is a list of words, several to a line. A word names a run of characters by
the code points of its ends: `300-34e` is the run from U+0300 to U+034E, and `378` holds one
character.

* `Run`, `Run.ofWord?`: a run and its word.
* `runs`: the runs of a table.
* `lookup?`: the group of a character in a table with several groups.
-/

namespace GceMachines.Url.Name

/-- Characters with consecutive code points. -/
structure Run where
  first : Nat
  last : Nat
  deriving DecidableEq, Repr

namespace Run

/-- Whether a character is in a run. -/
def holds (r : Run) (c : Char) : Bool := r.first ≤ c.toNat && c.toNat ≤ r.last

/-- The run that a word names. -/
def ofWord? (word : List Char) : Option Run :=
  match (word.splitOn '-').mapM (Text.ofDigits? 16) with
  | some [n] => some ⟨n, n⟩
  | some [a, b] => some ⟨a, b⟩
  | _ => none

theorem holds_first (r : Run) (h : r.first ≤ r.last) (c : Char) (hc : c.toNat = r.first) :
    r.holds c = true := by
  simp [holds, hc, h]

end Run

/-- The words of a table. -/
def wordsOf (lines : List String) : List (List Char) :=
  lines.flatMap fun line => line.toList.splitOn ' '

/-- **The runs of a table.** -/
def runs (lines : List String) : List Run := (wordsOf lines).filterMap Run.ofWord?

/-- **The group of a character** in a table that gives the runs of each group. -/
def lookup? {α : Type} (groups : List (α × List Run)) (c : Char) : Option α :=
  (groups.find? fun (_, rs) => rs.any (·.holds c)).map (·.1)

end GceMachines.Url.Name
