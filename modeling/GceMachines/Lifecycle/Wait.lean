import GceMachines.Lifecycle.Plan
import GceMachines.Lifecycle.Refusal
import GceMachines.Settings

/-!
# Waiting for an operation

An operation is looked at once per interval, the first time one interval after the wait began,
until it is done, a look fails, the time is up or the wait is cancelled. A look that comes late
shifts the looks after it, so that two looks never follow each other faster than planned; lateness
of up to five milliseconds does not count.

* `nextTick`: the instant planned for the next look.
* `awaitOperation`: the wait.
-/

namespace GceMachines.Lifecycle

/-- How late a look may be without shifting those after it, in milliseconds. -/
def toleranceMs : Nat := 5

/-- The instant planned for the look after one that was planned for `planned` and began at
`now`. -/
def nextTick (interval : Nat) (planned now : Nat) : Nat :=
  if now ≤ planned + toleranceMs then planned + interval else now + interval

theorem lt_nextTick {interval : Nat} (h : 0 < interval) (planned now : Nat) :
    planned < nextTick interval planned now := by
  unfold nextTick
  split <;> omega

/-- An operation that is waited for. -/
structure Awaited where
  project : String
  zone : String
  name : String

/-- What the end of an operation means. -/
def outcome (name : String) (op : Operation) : Except MachineError Unit :=
  match op.error with
  | none => .ok ()
  | some e => .error (ofOperation name e.errors)

/-- The looks from one that is planned for `planned` on. -/
def looks (o : Awaited) (cfg : PollConfig) (deadline planned : Nat) :
    Plan (Except MachineError Unit) :=
  let cancelled : Plan (Except MachineError Unit) := Plan.fail (.cancelled o.name)
  let late : Plan (Except MachineError Unit) := Plan.fail (.timeout o.name cfg.timeoutMs)
  .ask (.sleep planned deadline) fun
    | .cancelled => cancelled
    | .late => late
    | .came () =>
      if _ : planned < deadline then
        .ask .clock fun now =>
          .ask (.count .poll) fun _ =>
            .ask (.bounded (.operation o.project o.zone o.name) deadline) fun
              | .cancelled => cancelled
              | .late => late
              | .came (.error e) => Plan.fail e.toMachineError
              | .came (.ok op) =>
                if op.isDone then .done (outcome o.name op)
                else looks o cfg deadline (nextTick cfg.intervalMs planned now)
      else late
termination_by deadline - planned
decreasing_by
  have := lt_nextTick cfg.interval_pos planned now
  omega

/-- **Waits for an operation.** However it ends, the wait is counted once. -/
def awaitOperation (o : Awaited) (cfg : PollConfig) : Plan (Except MachineError Unit) :=
  .ask .clock fun start =>
    (looks o cfg (start + cfg.timeoutMs) (start + cfg.intervalMs)).bind fun r =>
      Plan.counting .operationWait (.done r)

end GceMachines.Lifecycle
