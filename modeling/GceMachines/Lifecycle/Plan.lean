import GceMachines.Compute.Service
import GceMachines.Lifecycle.Measure
import GceMachines.Machine.Secret
import GceMachines.Program

/-!
# Plans

A lifecycle call is a plan: a program whose questions are the calls to the service, the waiting
and the counting. Calls that ask for a change are seen through whatever happens. Listing and
looking at operations can be cut short, because the call as a whole may be cancelled or may run
out of time.

* `Ask`, `Ask.Answer`: the questions of a plan and their answers.
* `Plan`: a plan.
-/

namespace GceMachines

/-- What came of waiting for something with a deadline. -/
inductive Waited (α : Type)
  | came (a : α)
  | cancelled
  | late
  deriving DecidableEq, Repr

/-- **The questions of a plan.** -/
inductive Ask
  /-- Makes the service accessible with the credentials of a secret. -/
  | connect (secret : Secret)
  /-- A call that is seen through. -/
  | call (r : Request)
  /-- A call that ends early when the plan is cancelled. -/
  | abortable (r : Request)
  /-- A call that ends early when the plan is cancelled or the deadline is reached. -/
  | bounded (r : Request) (deadline : Nat)
  /-- Waits for an instant, unless the plan is cancelled or the deadline is reached before. -/
  | sleep (wake deadline : Nat)
  /-- Whether the plan is cancelled. -/
  | cancelled
  /-- What time it is. -/
  | clock
  /-- Counts something. -/
  | count (m : Measure)

/-- What answers a question. -/
abbrev Ask.Answer : Ask → Type
  | .connect _ => Except ServiceError Unit
  | .call r => Except ServiceError r.Reply
  | .abortable r => Option (Except ServiceError r.Reply)
  | .bounded r _ => Waited (Except ServiceError r.Reply)
  | .sleep _ _ => Waited Unit
  | .cancelled => Bool
  | .clock => Nat
  | .count _ => Unit

/-- **A plan**: a program with these questions. -/
abbrev Plan (α : Type) : Type := Program Ask.Answer α

namespace Plan

/-- Ends a plan with a failure. -/
def fail {α : Type} (e : MachineError) : Plan (Except MachineError α) := .done (.error e)

/-- Ends a plan with a value. -/
def succeed {α : Type} (a : α) : Plan (Except MachineError α) := .done (.ok a)

/-- Counts something and goes on. -/
def counting {α : Type} (m : Measure) (next : Plan α) : Plan α := .ask (.count m) fun _ => next

end Plan

end GceMachines
