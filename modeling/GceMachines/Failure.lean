import GceMachines.Text.Split

/-!
# Failures with causes

Something fails with a message, which may have a cause, which may have a cause in turn. They are
shown below each other; of several causes each has its number.

* `Failure`, `Failure.text`.
-/

namespace GceMachines

/-- **Why something fails**: a message and its causes, the nearest first. -/
structure Failure where
  message : String
  causes : List String
  deriving DecidableEq, Repr

namespace Failure

/-- A failure without a known cause. -/
def ofMessage (message : String) : Failure := ⟨message, []⟩

/-- What failed because of something else. -/
def because (message : String) (cause : Failure) : Failure :=
  ⟨message, cause.message :: cause.causes⟩

/-- Lines of which the first one is marked and the others begin below its text. -/
def indented (mark indent text : String) : String :=
  mark ++ ("\n" ++ indent).intercalate (Text.splitOn '\n' text)

/-- A number at the right end of five places. -/
def numberMark (n : Nat) : String :=
  String.ofList (List.replicate (5 - (toString n).length) ' ') ++ toString n ++ ": "

/-- The causes as they are shown. -/
def causeLines (causes : List String) : List String :=
  match causes with
  | [cause] => [indented "    " "    " cause]
  | causes => causes.zipIdx.map fun (cause, n) => indented (numberMark n) "       " cause

/-- **How a failure is shown.** -/
def text (f : Failure) : String :=
  f.message ++
    (if f.causes.isEmpty then ""
    else "\n\nCaused by:\n" ++ "\n".intercalate (causeLines f.causes))

end Failure

end GceMachines
