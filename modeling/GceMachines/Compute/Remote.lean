import GceMachines.Auth.Token
import GceMachines.Compute.Access
import GceMachines.Lifecycle.Clock

/-!
# The service as a backend

Connecting fetches a token for the credentials of a secret; the calls after it bear that token.
Every call is one message, and it is seen through: nothing is sent twice.

* `Remote`: what is kept between the calls.
* `Remote.backend`: the service behind an address as a backend.
-/

namespace GceMachines

/-- **What is kept between calls**: the outside, the access that the last connection gave, and
what was counted, the latest first. -/
structure Remote (σ : Type) where
  outside : σ
  access : Option Access
  measures : List Measure

namespace Remote

variable {σ : Type}

/-- Before any call. -/
def start (s : σ) : Remote σ := ⟨s, none, []⟩

/-- The failure of a call without an access. -/
def notConnected : ServiceError := .auth "not connected"

/-- Fetches an access for the credentials of a secret. -/
def connect (o : Outside σ) (endpoint : String) (secret : Secret) (s : Remote σ) :
    Response Unit × Remote σ :=
  match (Token.fetch secret).run o.handler s.outside with
  | .stuck t => (.never, { s with outside := t, access := none })
  | .answered token t =>
    match (token.mapError TokenFault.toServiceError).bind (Access.ofEndpoint endpoint) with
    | .error e => (.after 0 (.error e), { s with outside := t, access := none })
    | .ok a => (.after 0 (.ok ()), { s with outside := t, access := some a })

/-- Makes a call. -/
def call (o : Outside σ) (r : Request) (s : Remote σ) : Response r.Reply × Remote σ :=
  match s.access with
  | none => (.after 0 (.error notConnected), s)
  | some a =>
    match (Errand.send (a.message r)).run o.handler s.outside with
    | .stuck t => (.never, { s with outside := t })
    | .answered answer t =>
      (.after 0 (Access.reply r answer),
        { s with outside := t, measures := (Access.measure? r answer).toList ++ s.measures })

/-- Lets the time of a pause pass outside as well. -/
def wait (o : Outside σ) (ms : Nat) (s : Remote σ) : Remote σ :=
  { s with outside := (o.handler (.pause ms) s.outside).state }

/-- **The service behind an address.** -/
def backend (o : Outside σ) (endpoint : String) : Backend (Remote σ) where
  connect := connect o endpoint
  call := call o
  wait := wait o
  interrupted s := o.interrupted s.outside

end Remote

end GceMachines
