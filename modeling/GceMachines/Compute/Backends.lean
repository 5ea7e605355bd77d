import GceMachines.Compute.InMemory
import GceMachines.Lifecycle.Clock

/-!
# Backends

Two backends that need no network: the service in memory, which answers at once, and a script,
which gives one prepared response after the other. A script that has run out shows operations that
still run, and empty pages.

* `InMemory.backend`: the service in memory, for credentials that it accepts or refuses.
* `Script`, `Script.backend`: prepared responses.
-/

namespace GceMachines

/-- An answer that comes at once, or never. -/
def Response.atOnce {α : Type} : Option (Except ServiceError α) → Response α
  | some r => .after 0 r
  | none => .never

/-- The service in memory as a backend. With a refusal, no credentials are accepted. -/
def InMemory.backend (refusal : Option ServiceError) : Backend InMemory where
  connect _ m := (.after 0 (match refusal with
    | some e => .error e
    | none => .ok ()), m)
  call r m := let (a, m) := answer r m; (.atOnce a, m)
  wait _ m := m
  interrupted _ := false

/-- **Prepared responses**, the next one first. -/
structure Script where
  operations : List (Response Operation)
  pages : List (Response InstanceList)

namespace Script

/-- An operation that still runs. -/
def running : Response Operation := .after 0 (.ok { Operation.blank with status := .running })

/-- A page without instances, and the last one. -/
def emptyPage : Response InstanceList := .after 0 (.ok ⟨[], none⟩)

/-- The next operation. -/
def nextOperation (s : Script) : Response Operation × Script :=
  (s.operations.headD running, { s with operations := s.operations.tail })

/-- The response to a call. -/
def answer : (r : Request) → Script → Response r.Reply × Script
  | .insert _ _ _, s => s.nextOperation
  | .delete _, s => s.nextOperation
  | .operation _ _ _, s => s.nextOperation
  | .get target, s => (.after 0 (.error (InMemory.notThere target)), s)
  | .list _ _ _, s => (s.pages.headD emptyPage, { s with pages := s.pages.tail })

/-- A script as a backend. -/
def backend : Backend Script where
  connect _ s := (.after 0 (.ok ()), s)
  call := answer
  wait _ s := s
  interrupted _ := false

end Script

end GceMachines
