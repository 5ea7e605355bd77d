import GceMachines.Proofs.InMemory.Service

/-!
# Operations of the service in memory

A change that is accepted starts an operation, and whether it takes effect is decided then: it does
unless errors are scripted for the operation. Every look but the last shows an operation that still
runs, and the last one shows the errors, if there are any. So how the operation is seen to end says
whether the change took effect.

* `Runs`: an operation that was started, with the looks left and the errors it ends with.
* `insert_eq_ok`, `delete_eq_ok`: what an accepted change makes of the service.
* `poll_runs`: one look; `Runs.looked`: a wait.
-/

namespace GceMachines

/-! ### One operation -/

namespace StartedOperation

/-- An operation is shown as done exactly if no look is left, and then with its errors. -/
structure Coherent (o : StartedOperation) : Prop where
  done_iff : o.shown.isDone = true ↔ o.looksLeft = 0
  error_of_done : o.looksLeft = 0 → o.shown.error = o.outcome

theorem looksLeft_look (o : StartedOperation) : o.look.looksLeft = o.looksLeft - 1 := by
  unfold look
  split <;> simp [*]

theorem outcome_look (o : StartedOperation) : o.look.outcome = o.outcome := by
  unfold look
  split <;> rfl

/-- **A look** keeps an operation coherent. -/
theorem Coherent.look {o : StartedOperation} (h : o.Coherent) : o.look.Coherent := by
  unfold StartedOperation.look
  split
  · exact h
  · exact ⟨⟨fun _ => rfl, fun _ => rfl⟩, fun _ => rfl⟩
  · next n hn =>
    have hrunning : o.shown.isDone = false := by
      rw [← Bool.not_eq_true, h.done_iff, hn]
      omega
    exact ⟨⟨fun hd => absurd (hrunning.symm.trans hd) Bool.false_ne_true, nofun⟩, nofun⟩

end StartedOperation

namespace InMemory

open Lifecycle

/-! ### Operations that were started -/

/-- **An operation was started** under a name, with some looks left and the errors it ends with. -/
def Runs (m : InMemory) (name : String) (looks : Nat) (outcome : Option OperationError) : Prop :=
  ∃ o, m.operations.get? name = some o ∧ o.Coherent ∧ o.looksLeft = looks ∧ o.outcome = outcome

/-- The errors with which the next operation ends. -/
def nextOutcome (m : InMemory) : Option OperationError :=
  m.failures.operation.head?.map OperationError.mk

/-- **What an accepted change makes of the service**: the operation is started, and the instances
are changed unless it ends with errors. -/
structure Accepted (m : InMemory) (changed : SortedMap MachineId Instance) (op : Operation)
    (m' : InMemory) : Prop where
  named : op.name = operationName m.serial
  runs : m'.Runs op.name m.looksUntilDone m.nextOutcome
  instances : m'.instances = if m.nextOutcome.isSome then m.instances else changed
  pollFailures : m'.failures.poll = m.failures.poll

theorem runs_start (m : InMemory) (kind : String) (target : MachineId) :
    (m.start kind target).2.2.Runs (operationName m.serial) m.looksUntilDone m.nextOutcome := by
  refine ⟨_, SortedMap.get?_insert_self, ⟨?_, ?_⟩, rfl, rfl⟩
  · by_cases h : m.looksUntilDone = 0 <;> simp [h, Operation.isDone]
  · intro h
    exact if_pos (show m.looksUntilDone = 0 from h)

variable {m m' : InMemory} {project zone name : String} {body : Instance} {target : MachineId}
  {op : Operation} {e : ServiceError} {looks : Nat} {outcome : Option OperationError}

theorem Runs.congr (h : m.Runs name looks outcome) (ho : m'.operations = m.operations) :
    m'.Runs name looks outcome := by
  unfold Runs
  rw [ho]
  exact h

/-- **An accepted insertion** puts the instance under a free name. -/
theorem insert_eq_ok (h : m.insert project zone body = (.ok op, m')) :
    m.instances.get? ⟨project, zone, body.name⟩ = none ∧
      Accepted m (m.instances.insert ⟨project, zone, body.name⟩
        (created m.serial ⟨project, zone, body.name⟩ body)) op m' := by
  unfold insert at h
  dsimp only at h
  split at h
  · cases h
  · cases hfree : m.instances.contains ⟨project, zone, body.name⟩ with
    | true =>
      rw [hfree, if_pos rfl] at h
      cases h
    | false =>
      rw [hfree, if_neg Bool.false_ne_true] at h
      cases h
      refine ⟨SortedMap.contains_eq_false_iff.mp hfree, rfl, ?_, ?_, ?_⟩
      · refine (runs_start m "insert" ⟨project, zone, body.name⟩).congr ?_
        split <;> rfl
      · exact apply_ite InMemory.instances _ _ _
      · split <;> rfl

theorem insert_eq_error (h : m.insert project zone body = (.error e, m')) :
    m'.instances = m.instances := by
  unfold insert at h
  dsimp only at h
  split at h
  · cases h
    rfl
  · split at h
    · cases h
      rfl
    · cases h

/-- **An accepted deletion** takes out an instance that was there. -/
theorem delete_eq_ok (h : m.delete target = (.ok op, m')) :
    Accepted m (m.instances.erase target) op m' := by
  unfold delete at h
  dsimp only at h
  split at h
  · cases h
  · cases hthere : m.instances.contains target with
    | false =>
      rw [hthere, if_neg Bool.false_ne_true] at h
      cases h
    | true =>
      rw [hthere, if_pos rfl] at h
      cases h
      refine ⟨rfl, ?_, ?_, ?_⟩
      · refine (runs_start m "delete" target).congr ?_
        split <;> rfl
      · exact apply_ite InMemory.instances _ _ _
      · split <;> rfl

theorem delete_eq_error (h : m.delete target = (.error e, m')) : m'.instances = m.instances := by
  unfold delete at h
  dsimp only at h
  split at h
  · cases h
    rfl
  · split at h
    · cases h
    · cases h
      rfl

/-! ### Looks -/

/-- **A look** at an operation that was started gives out a scripted failure, or it shows the
operation, as done only if it was the last look, and then with its errors. -/
theorem poll_runs (hr : m.Runs name looks outcome) {reply : Except ServiceError Operation}
    (h : m.poll name = (some reply, m')) :
    (∃ e ∈ m.failures.poll, reply = .error e) ∨
      ∃ op, reply = .ok op ∧ m'.Runs name (looks - 1) outcome ∧ m'.failures = m.failures ∧
        (op.isDone = true ↔ looks ≤ 1) ∧ (op.isDone = true → op.error = outcome) := by
  obtain ⟨o, ho, hcoherent, rfl, rfl⟩ := hr
  unfold poll at h
  dsimp only at h
  split at h
  · cases h
  · cases hf : m.failures.poll with
    | cons e es =>
      rw [hf] at h
      cases h
      exact .inl ⟨e, .head _, rfl⟩
    | nil =>
      rw [hf, ho] at h
      cases h
      have hlook := hcoherent.look
      refine .inr ⟨_, rfl, ⟨_, SortedMap.get?_insert_self, hlook, o.looksLeft_look,
        o.outcome_look⟩, ?_, ?_, fun hd => ?_⟩
      · rfl
      · rw [hlook.done_iff, o.looksLeft_look]
        omega
      · rw [hlook.error_of_done (hlook.done_iff.mp hd), o.outcome_look]

variable {refusal : Option ServiceError} {cancelAt : Option Nat} {w w' : World InMemory}
  {o : Awaited} {cfg : PollConfig} {deadline planned : Nat}
  {how : Waited (Except ServiceError Operation)}

theorem poll_of_look {reply : Except ServiceError Operation}
    (h : (backend refusal).handler cancelAt (.bounded (.operation project zone name) deadline) w =
      .answered (.came reply) w') :
    w.state.poll name = (some reply, w'.state) := by
  obtain ⟨ms, hc, -⟩ := (backend refusal).waitFor_eq_came cancelAt h
  have hs : (w.state.poll name).2 = w'.state := congrArg Prod.snd hc
  refine Prod.ext ?_ hs
  have hr : Response.atOnce (w.state.poll name).1 = .after ms reply := congrArg Prod.fst hc
  cases hp : (w.state.poll name).1 with
  | none =>
    rw [hp] at hr
    cases hr
  | some reply' =>
    rw [hp] at hr
    cases hr
    rfl

/-- How a wait may end for an operation that ends with some errors: a reply shows them, or it is a
scripted failure. -/
def MayEnd (m : InMemory) (outcome : Option OperationError) :
    Waited (Except ServiceError Operation) → Prop
  | .came (.ok op) => op.error = outcome
  | .came (.error e) => e ∈ m.failures.poll
  | _ => True

/-- **A wait for an operation that was started** ends in one of these ways. -/
theorem Runs.looked (hr : w.state.Runs o.name looks outcome)
    (hl : Looked (backend refusal) cancelAt o cfg deadline planned w how w') :
    w.state.MayEnd outcome how := by
  induction hl generalizing looks with
  | cancelledAsleep hs => trivial
  | lateAsleep hs => trivial
  | @last planned w w₁ w' how hs hl he =>
    have hsame : (w₁.measure .poll).state = w.state :=
      show w₁.state = w.state from state_of_uncalled rfl hs
    match how, hl, he with
    | .cancelled, _, _ => trivial
    | .late, _, _ => trivial
    | .came reply, hl, he =>
      rw [← hsame] at hr ⊢
      rcases poll_runs hr (poll_of_look hl) with ⟨e, hmem, rfl⟩ | ⟨op, rfl, -, -, -, herr⟩
      · exact hmem
      · exact herr he
  | @more planned w w₁ w₂ w' shown how hs hl hd hrest ih =>
    have hsame : (w₁.measure .poll).state = w.state :=
      show w₁.state = w.state from state_of_uncalled rfl hs
    rw [← hsame] at hr ⊢
    rcases poll_runs hr (poll_of_look hl) with ⟨e, -, h⟩ | ⟨op, -, hr', hf, -, -⟩
    · cases h
    · have hend := ih hr'
      unfold MayEnd at hend ⊢
      rw [← hf]
      exact hend

end InMemory

end GceMachines
