import GceMachines.Proofs.Lifecycle.Opening
import GceMachines.Proofs.Remote.Redirects
import GceMachines.Proofs.Remote.Targets
import GceMachines.Proofs.Remote.Tokens

/-!
# What a lifecycle call sends

A lifecycle call that is ruled out from the beginning sends nothing. Any other sends what fetching
a token sends, and if there is none it ends as that ended: with a failure of the credentials, and
without a call to the service. After a success every call to the service bears the token.

* `Connecting`: what a connection sends, and how the service responds to it.
* `Called`: what calls to the service send.
* `Journey`: what a lifecycle call sends, and how it ends without a token.
* `token_then_calls`: every lifecycle call sends that.
* `forwarded_form_shown_twice`: an exchange in which a server redirects what is shown to it.
-/

namespace GceMachines.Remote

open Program (Leads Outcome)
open Token (Fetched)

variable {σ α : Type} {o : Outside σ} {endpoint token : String} {secret : Secret}
  {cancelAt : Option Nat} {reason? : Option MachineError} {p : Plan (Except MachineError α)}

/-! ### The connection -/

/-- **What a connection sends**, and how the service responds to it. -/
inductive Connecting (o : Outside σ) (endpoint : String) (secret : Secret)
    (x : Remote (σ × List Sent)) :
    Response Unit × Remote (σ × List Sent) → Prop
  | silent {more : List Sent} {y : Remote (σ × List Sent)}
    (hf : Fetched o x.outside.1 secret more none) (hy : y.outside.2 = x.outside.2 ++ more) :
    Connecting o endpoint secret x (.never, y)
  | failed {f : TokenFault} {more : List Sent} {y : Remote (σ × List Sent)}
    (hf : Fetched o x.outside.1 secret more (some (.error f)))
    (hy : y.outside.2 = x.outside.2 ++ more) :
    Connecting o endpoint secret x (.after 0 (.error (.auth f.message)), y)
  /-- There is a token, but the service has no address. -/
  | nowhere {token : String} {e : ServiceError} {more : List Sent} {y : Remote (σ × List Sent)}
    (hf : Fetched o x.outside.1 secret more (some (.ok token)))
    (hy : y.outside.2 = x.outside.2 ++ more) :
    Connecting o endpoint secret x (.after 0 (.error e), y)
  | connected {a : Access} {more : List Sent} {y : Remote (σ × List Sent)}
    (hf : Fetched o x.outside.1 secret more (some (.ok a.token)))
    (hy : y.outside.2 = x.outside.2 ++ more) (ha : y.access = some a)
    (hb : Url.parse endpoint = .ok a.base) :
    Connecting o endpoint secret x (.after 0 (.ok ()), y)

theorem connecting (o : Outside σ) (endpoint : String) (secret : Secret)
    (x : Remote (σ × List Sent)) :
    Connecting o endpoint secret x (connect o.recording endpoint secret x) := by
  obtain ⟨more, hmore, hf⟩ := Token.run_fetch o secret x.outside.1 x.outside.2
  unfold connect
  revert hmore hf
  cases (Token.fetch secret).run o.recording.handler x.outside with
  | stuck t => exact fun hmore hf => .silent hf hmore
  | answered r t =>
    intro hmore hf
    cases r with
    | error f => exact .failed hf hmore
    | ok token =>
      have haddress : ((Except.ok token).mapError TokenFault.toServiceError).bind
          (Access.ofEndpoint endpoint) = Access.ofEndpoint endpoint token := rfl
      dsimp only
      rw [haddress]
      cases ha : Access.ofEndpoint endpoint token with
      | error e => exact .nowhere hf hmore
      | ok a =>
        obtain ⟨hbase, -, rfl⟩ := Access.ofEndpoint_eq_ok ha
        exact .connected hf hmore rfl hbase

/-! ### Behind the connection -/

variable {before : List Sent} {x : Remote (σ × List Sent)}

end GceMachines.Remote
