import GceMachines.Lifecycle.Machines
import GceMachines.Proofs.Lifecycle.Questions

/-!
# The calls of the parts of a lifecycle call

Entering a project makes no call, walking over pages lists, waiting for an operation looks at it.
Nothing behind the entrance connects again. Each fact is read off the plan, whatever the answers.

* `Within.walk`, `Within.discover`: a search lists instances, or makes no call.
* `Within.looks`, `Within.finish`: a wait looks at its operation.
* `Calls.status`, `Calls.list`, `Calls.describe`: the lifecycle calls that only look around.
-/

namespace GceMachines.Lifecycle

variable {α : Type} {P : Request → Prop}

theorem calls_of_request?_eq_none {q : Ask} (hq : q.request? = none) : q.Calls P := by
  intro r hr
  rw [hq] at hr
  cases hr

theorem calls_of_request?_eq_some {q : Ask} {r : Request} (hq : q.request? = some r) (hr : P r) :
    q.Calls P := by
  intro r' hr'
  rw [hq] at hr'
  cases hr'
  exact hr

theorem within_of_request?_eq_none {q : Ask} (hq : q.request? = none)
    (hc : ∀ secret, q ≠ .connect secret) : q.Within P :=
  ⟨calls_of_request?_eq_none hq, hc⟩

theorem within_of_request?_eq_some {q : Ask} {r : Request} (hq : q.request? = some r) (hr : P r) :
    q.Within P := by
  refine ⟨calls_of_request?_eq_some hq hr, ?_⟩
  rintro secret rfl
  cases hq

/-! ### Behind the entrance -/

namespace Within

theorem counted (call : LifecycleCall) {p : Plan (Except MachineError α)} (hp : p.Within P) :
    (Lifecycle.counted call p).Within P := by
  unfold Lifecycle.counted
  refine hp.bind fun _ => ?_
  exact ⟨within_of_request?_eq_none rfl nofun, fun _ => trivial⟩

theorem walk {s : Search} (hP : ∀ token, P (.list s.project s.zone token)) :
    ∀ (n : Nat) (token : Option String) (found : Discovered), (s.walk n token found).Within P
  | 0, _, _ => trivial
  | n + 1, token, found => by
    refine ⟨within_of_request?_eq_some rfl (hP token), fun a => ?_⟩
    match a with
    | none => trivial
    | some (.error e) => trivial
    | some (.ok page) =>
      dsimp only
      split
      · trivial
      · split
        · exact walk hP n _ _
        · refine ⟨within_of_request?_eq_none rfl nofun, fun stop => ?_⟩
          cases stop <;> trivial

theorem discover {n : Nat} {project zone : String} {tags : List String} {name : Option String}
    (hP : ∀ token, P (.list project zone token)) :
    (Lifecycle.discover n project zone tags name).Within P := by
  unfold Lifecycle.discover
  split
  · trivial
  · exact walk hP n _ _

theorem looks {o : Awaited} (hP : P (.operation o.project o.zone o.name)) (cfg : PollConfig)
    (deadline planned : Nat) : (Lifecycle.looks o cfg deadline planned).Within P := by
  rw [Lifecycle.looks]
  refine ⟨within_of_request?_eq_none rfl nofun, fun a => ?_⟩
  match a with
  | .cancelled => trivial
  | .late => trivial
  | .came () =>
    dsimp only
    split
    · next h =>
      refine ⟨within_of_request?_eq_none rfl nofun, fun now =>
        ⟨within_of_request?_eq_none rfl nofun, fun _ =>
          ⟨within_of_request?_eq_some rfl hP, fun reply => ?_⟩⟩⟩
      match reply with
      | .cancelled => trivial
      | .late => trivial
      | .came (.error e) => trivial
      | .came (.ok op) =>
        dsimp only
        split
        · trivial
        · exact looks hP cfg deadline _
    · trivial
termination_by deadline - planned
decreasing_by
  have := lt_nextTick cfg.interval_pos planned now
  omega

theorem awaitOperation {o : Awaited} (hP : P (.operation o.project o.zone o.name))
    (cfg : PollConfig) : (Lifecycle.awaitOperation o cfg).Within P := by
  refine ⟨within_of_request?_eq_none rfl nofun, fun _ => (looks hP cfg _ _).bind fun _ => ?_⟩
  exact ⟨within_of_request?_eq_none rfl nofun, fun _ => trivial⟩

theorem finish {m : MachineId} {op : Operation} (hP : P (.operation m.project m.zone op.name))
    (limits : Limits) : (Lifecycle.finish limits m op).Within P :=
  (awaitOperation (o := ⟨m.project, m.zone, op.name⟩) hP limits.poll).bindOk fun _ => trivial

end Within

/-! ### From the entrance on -/

namespace Calls

theorem counted (call : LifecycleCall) {p : Plan (Except MachineError α)} (hp : p.Calls P) :
    (Lifecycle.counted call p).Calls P := by
  unfold Lifecycle.counted
  refine hp.bind fun _ => ?_
  exact ⟨calls_of_request?_eq_none rfl, fun _ => trivial⟩

theorem connect (secret : Secret) : (Lifecycle.connect secret).Calls P :=
  ⟨calls_of_request?_eq_none rfl, fun _ => trivial⟩

theorem enter (secret : Secret) : (Lifecycle.enter secret).Calls P := by
  unfold Lifecycle.enter
  split
  · trivial
  · exact (connect secret).bindOk fun _ => trivial

theorem discover {n : Nat} {project zone : String} {tags : List String} {name : Option String}
    (hP : ∀ token, P (.list project zone token)) :
    (Lifecycle.discover n project zone tags name).Calls P :=
  (Within.discover hP).calls

theorem finish {m : MachineId} {op : Operation} (hP : P (.operation m.project m.zone op.name))
    (limits : Limits) : (Lifecycle.finish limits m op).Calls P :=
  (Within.finish hP limits).calls

/-! ### Lifecycle calls that look around -/

theorem status {spec : ProviderSpec} (hP : ∀ project token, P (.list project spec.zone token))
    (limits : Limits) (name : String) (secret : Secret) :
    (Lifecycle.status limits name spec secret).Calls P := by
  unfold Lifecycle.status
  refine counted _ ((enter secret).bindOk fun project => ?_)
  refine (discover (hP project)).bindOk fun found => ?_
  split <;> trivial

theorem list {spec : ProviderSpec} (hP : ∀ project token, P (.list project spec.zone token))
    (limits : Limits) (secret : Secret) : (Lifecycle.list limits spec secret).Calls P := by
  unfold Lifecycle.list
  exact counted _ ((enter secret).bindOk fun project => discover (hP project))

theorem describe (hP : ∀ target, P (.get target)) (id : String) (secret : Secret) :
    (Lifecycle.describe id secret).Calls P := by
  unfold Lifecycle.describe
  split
  · trivial
  · refine (connect secret).bindOk fun _ =>
      ⟨calls_of_request?_eq_some rfl (hP _), fun r => ?_⟩
    match r with
    | .error e => trivial
    | .ok i => trivial

end Calls

end GceMachines.Lifecycle
