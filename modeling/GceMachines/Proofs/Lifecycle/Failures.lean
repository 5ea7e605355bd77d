import GceMachines.Lifecycle.Machines
import GceMachines.Proofs.Program.Runs

/-!
# Failures by their kinds

Before a lifecycle call knows anything about a machine it may fail for three reasons: the service
fails, the secret is of no use, or the call is cancelled. Entering a project, connecting and
searching fail for no other reason, so whatever holds of these three kinds of failures holds of
every failure there. A change fails for further reasons: there is no room, its operation fails, or
time is up. Beyond them there is only a machine that is not found, and an id that cannot be read.

* `Plain`, `Changing`: what holds of failures of these kinds.
* `enter_fails`, `connect_fails`, `discover_fails`: it holds of every failure before a change.
* `looks_fails`, `finish_fails`: and of every failure of a wait.
* `create_fails`, `delete_fails`, `status_fails`, `list_fails`, `describe_fails`: the calls.
-/

namespace GceMachines

theorem Secret.project_eq_error {secret : Secret} {e : MachineError}
    (h : secret.project = .error e) : ∃ text, e = .credentials text := by
  unfold Secret.project at h
  split at h
  · cases h
    exact ⟨_, rfl⟩
  · next c _ =>
    unfold Secret.namedProject at h
    revert h
    split
    · split
      · intro h
        simp only [Except.bind] at h
        split at h <;> cases h
        exact ⟨_, rfl⟩
      · rintro ⟨⟩
        exact ⟨_, rfl⟩
    · intro h
      simp only [Except.bind] at h
      split at h <;> cases h
      exact ⟨_, rfl⟩

namespace Lifecycle

open Program (Fails)

/-- **What holds of every failure that judges no machine.** -/
structure Plain (E : MachineError → Prop) : Prop where
  service : ∀ e : ServiceError, E e.toMachineError
  credentials : ∀ text, E (.credentials text)
  cancelled : ∀ operation, E (.cancelled operation)

variable {E : MachineError → Prop}

theorem connect_fails (hE : Plain E) (secret : Secret) : (connect secret).Fails E := by
  intro r
  cases r with
  | ok a => exact Fails.done_ok _
  | error e => exact Fails.done_error (hE.service e)

theorem enter_fails (hE : Plain E) (secret : Secret) : (enter secret).Fails E := by
  unfold enter
  split
  · next h =>
    obtain ⟨text, rfl⟩ := Secret.project_eq_error h
    exact Fails.done_error (hE.credentials text)
  · exact (connect_fails hE secret).bindOk fun _ => Fails.done_ok _

theorem walk_fails (hE : Plain E) (s : Search) :
    ∀ (n : Nat) (token : Option String) (found : Discovered), (s.walk n token found).Fails E
  | 0, _, _ => trivial
  | n + 1, token, found => by
    intro a
    match a with
    | none => exact Fails.done_error (hE.cancelled _)
    | some (.error e) => exact Fails.done_error (hE.service e)
    | some (.ok page) =>
      dsimp only
      split
      · exact Fails.done_ok _
      · split
        · exact walk_fails hE s n _ _
        · intro stop
          cases stop
          · exact Fails.done_ok _
          · exact Fails.done_error (hE.cancelled _)

theorem discover_fails (hE : Plain E) (n : Nat) (project zone : String) (tags : List String)
    (name : Option String) : (discover n project zone tags name).Fails E := by
  unfold discover
  split
  · exact Fails.done_ok _
  · exact walk_fails hE _ _ _ _

theorem counted_fails {α : Type} {call : LifecycleCall} {p : Plan (Except MachineError α)}
    (hp : p.Fails E) : (counted call p).Fails E := by
  refine Program.Ends.bind (fun r hr => ?_) hp
  exact fun _ => hr

/-! ### Changes -/

/-- **What holds of every failure of a change**, those of its operation among them. -/
structure Changing (E : MachineError → Prop) : Prop extends Plain E where
  exhausted : ∀ text, E (.resourceExhausted text)
  remote : ∀ text, E (.remote text)
  timeout : ∀ operation ms, E (.timeout operation ms)

theorem ofSubmission_of_changing (hE : Changing E) (e : ServiceError) : E (ofSubmission e) := by
  unfold ofSubmission
  split
  · exact hE.exhausted _
  · exact hE.service e

theorem outcome_fails (hE : Changing E) (name : String) (op : Operation) :
    Fails E (.done (outcome name op) : Plan (Except MachineError Unit)) := by
  unfold outcome
  split
  · exact Fails.done_ok _
  · refine Fails.done_error ?_
    unfold ofOperation
    split
    · exact hE.remote _
    · dsimp only
      split
      · exact hE.exhausted _
      · exact hE.remote _

theorem looks_fails (hE : Changing E) (o : Awaited) (cfg : PollConfig) (deadline planned : Nat) :
    (looks o cfg deadline planned).Fails E := by
  rw [looks]
  intro slept
  cases slept with
  | cancelled => exact Fails.done_error (hE.cancelled _)
  | late => exact Fails.done_error (hE.timeout _ _)
  | came u =>
    dsimp only
    split
    · intro now _ reply
      cases reply with
      | cancelled => exact Fails.done_error (hE.cancelled _)
      | late => exact Fails.done_error (hE.timeout _ _)
      | came reply =>
        cases reply with
        | error e => exact Fails.done_error (hE.service e)
        | ok op =>
          dsimp only
          split
          · exact outcome_fails hE o.name op
          · exact looks_fails hE o cfg deadline _
    · exact Fails.done_error (hE.timeout _ _)
termination_by deadline - planned
decreasing_by
  have := lt_nextTick cfg.interval_pos planned now
  omega

theorem finish_fails (hE : Changing E) (limits : Limits) (m : MachineId) (op : Operation) :
    (finish limits m op).Fails E := by
  refine Fails.bindOk (fun _ => ?_) fun _ => Fails.done_ok _
  refine Program.Ends.bind (fun r hr => ?_) (looks_fails hE _ _ _ _)
  exact fun _ => hr

/-! ### Calls -/

variable {limits : Limits} {name id : String} {spec : ProviderSpec} {secret : Secret}

theorem create_fails (hE : Changing E) : (create limits name spec secret).Fails E := by
  unfold create
  refine counted_fails ((enter_fails hE.toPlain secret).bindOk fun project => ?_)
  intro r
  match r with
  | .error e => exact Fails.done_error (ofSubmission_of_changing hE e)
  | .ok op => exact finish_fails hE limits _ op

theorem delete_fails (hE : Changing E) (hn : E (.notFound name)) :
    (delete limits name spec secret).Fails E := by
  unfold delete
  refine counted_fails ((enter_fails hE.toPlain secret).bindOk fun project => ?_)
  refine (discover_fails hE.toPlain _ _ _ _ _).bindOk fun found => ?_
  split
  · exact Fails.done_error hn
  · intro r
    match r with
    | .error e =>
      dsimp only
      split
      · exact Fails.done_ok _
      · exact Fails.done_error (hE.service e)
    | .ok op => exact finish_fails hE limits _ op

theorem status_fails (hE : Plain E) (hn : E (.notFound name)) :
    (status limits name spec secret).Fails E := by
  unfold status
  refine counted_fails ((enter_fails hE secret).bindOk fun project => ?_)
  refine (discover_fails hE _ _ _ _ _).bindOk fun found => ?_
  split
  · exact Fails.done_error hn
  · exact Fails.done_ok _

theorem list_fails (hE : Plain E) : (list limits spec secret).Fails E := by
  unfold list
  exact counted_fails ((enter_fails hE secret).bindOk fun _ => discover_fails hE _ _ _ _ _)

theorem describe_fails (hE : Plain E)
    (hn : ∀ m, MachineId.parse? id = some m → E (.notFound m.name))
    (hid : MachineId.parse? id = none → E (.malformedIdentifier id)) :
    (describe id secret).Fails E := by
  unfold describe
  split
  · next h => exact Fails.done_error (hid h)
  · next m h =>
    refine (connect_fails hE secret).bindOk fun _ => ?_
    intro r
    match r with
    | .ok i => exact Fails.done_ok _
    | .error e =>
      refine Fails.done_error ?_
      split
      · exact hn m h
      · exact hE.service e

end Lifecycle

end GceMachines
