import GceMachines.Lifecycle.Plan

/-!
# Pages of a listing

A listing comes in pages. The first page is asked for without a token, and every further one with
the token of the page before it; a page without a token, or with an empty one, is the last.

* `InstanceList.next?`: the token of the next page.
* `pages`: all pages, or the first few.
-/

namespace GceMachines

/-- The token of the next page, if there is one. -/
def InstanceList.next? (l : InstanceList) : Option String := l.nextPageToken.filter (!·.isEmpty)

namespace Lifecycle

/-- How a walk over pages ended. -/
inductive WalkEnd
  | exhausted
  /-- Enough pages were seen. -/
  | stopped
  | failed (e : ServiceError)
  deriving DecidableEq, Repr

/-- **The pages of a zone** from a token on, as many as wanted, and how the walk ended. The walk
is cut off after `allowance` pages. -/
def pages (project zone : String) : (allowance : Nat) → (wanted : Option Nat) → Option String →
    Plan (List (List Instance) × WalkEnd)
  | 0, _, _ => .unfinished
  | n + 1, wanted, token =>
    if wanted = some 0 then .done ([], .stopped)
    else .ask (.call (.list project zone token)) fun
      | .error e => .done ([], .failed e)
      | .ok page =>
        match page.next? with
        | none => .done ([page.items], if wanted = some 1 then .stopped else .exhausted)
        | some t =>
          (pages project zone n (wanted.map (· - 1)) (some t)).bind fun (rest, how) =>
            .done (page.items :: rest, how)

end Lifecycle

end GceMachines
