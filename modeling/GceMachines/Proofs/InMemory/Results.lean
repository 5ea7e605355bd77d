import GceMachines.Proofs.InMemory.Operations
import GceMachines.Proofs.Lifecycle.Exhaustion

/-!
# What a result says about the store

A creation that succeeds has stored its machine under a name that was free, and a deletion that
succeeds has taken its machine out, unless the service said that there is none. A call that fails
has changed nothing, with three exceptions: the change was accepted, but the wait for it was
cancelled, took too long, or could not look. No call touches another machine, and the calls that
look around change nothing and start no operation.

* `LeavesOpen`: the failures behind which a change may have taken effect.
* `CreateTells`, `DeleteTells`: what the results of the two changes say.
* `createTells_of_ends`, `deleteTells_of_ends`: they say so.
* `results_tell_store`: all lifecycle calls.
-/

namespace GceMachines.InMemory

open Lifecycle

variable {refusal : Option ServiceError} {cancelAt : Option Nat} {limits : Limits}
  {poll : PollConfig} {name : String} {spec : ProviderSpec} {secret : Secret}
  {m m' : InMemory} {w w' : World InMemory} {r : Except MachineError String}

/-! ### What results say -/

/-- **A failure behind which the change may have taken effect**: the wait for its operation took too
long or was cancelled, or a look at it failed. -/
def LeavesOpen (m : InMemory) (poll : PollConfig) (e : MachineError) : Prop :=
  e = .timeout (operationName m.serial) poll.timeoutMs ∨
    e = .cancelled (operationName m.serial) ∨ ∃ f ∈ m.failures.poll, e = f.toMachineError

/-- **What the result of a creation says** about the stores before and after it. -/
structure CreateTells (m : InMemory) (poll : PollConfig) (name : String) (spec : ProviderSpec)
    (secret : Secret) (r : Except MachineError String) (m' : InMemory) : Prop where
  /-- The machine was absent and is stored, as it was asked for but for four fields. -/
  stored : ∀ id, r = .ok id → ∃ project uid, secret.project = .ok project ∧
    m.instances.get? ⟨project, spec.zone, name⟩ = none ∧
    m'.instances.get? ⟨project, spec.zone, name⟩ =
      some { instanceBody name project spec secret.userData with
        id := some uid
        status := some "PROVISIONING"
        zone := some spec.zone
        selfLink := some (MachineId.path ⟨project, spec.zone, name⟩) }
  /-- Without room nothing has changed. -/
  exhausted : ∀ text, r = .error (.resourceExhausted text) → m'.instances = m.instances
  /-- Nothing has changed if the name was taken. -/
  taken : ∀ e project, r = .error e → secret.project = .ok project →
    m.instances.get? ⟨project, spec.zone, name⟩ ≠ none → m'.instances = m.instances
  /-- Few failures leave open whether anything has changed. -/
  changed : ∀ e, r = .error e → m'.instances ≠ m.instances → m.LeavesOpen poll e

/-- **What the result of a deletion says** about the stores before and after it. -/
structure DeleteTells (m : InMemory) (poll : PollConfig) (name : String) (spec : ProviderSpec)
    (secret : Secret) (r : Except MachineError String) (m' : InMemory) : Prop where
  /-- The machine is absent, unless the deletion was answered by saying that it is. -/
  gone : ∀ id, r = .ok id → ∃ project, secret.project = .ok project ∧
    (m'.instances.get? ⟨project, spec.zone, name⟩ = none ∨
      ∃ text, (m.delete ⟨project, spec.zone, name⟩).1 = .error (.api 404 text))
  /-- Few failures leave open whether anything has changed. -/
  changed : ∀ e, r = .error e → m'.instances ≠ m.instances → m.LeavesOpen poll e

/-- Two stores agree on all machines but one. -/
def AgreeBut (name : String) (spec : ProviderSpec) (secret : Secret) (m m' : InMemory) : Prop :=
  ∀ k, (∀ project, secret.project = .ok project → k ≠ ⟨project, spec.zone, name⟩) →
    m'.instances.get? k = m.instances.get? k

/-! ### Waits -/

theorem settled_tells (poll : PollConfig) (target : MachineId) {op : Operation}
    {outcome : Option OperationError} {how : Waited (Except ServiceError Operation)}
    (hop : op.name = operationName m.serial) (hend : m.MayEnd outcome how) :
    (∀ id, settled poll target op how = .ok id → outcome = none) ∧
      ∀ e, settled poll target op how = .error e → outcome = none → m.LeavesOpen poll e := by
  unfold settled meaning
  match how, hend with
  | .cancelled, _ =>
    refine ⟨nofun, fun e h _ => ?_⟩
    cases h
    exact .inr (.inl (congrArg _ hop))
  | .late, _ =>
    refine ⟨nofun, fun e h _ => ?_⟩
    cases h
    exact .inl (congrArg (MachineError.timeout · _) hop)
  | .came (.error f), hf =>
    refine ⟨nofun, fun e h _ => ?_⟩
    cases h
    exact .inr (.inr ⟨f, hf, rfl⟩)
  | .came (.ok shown), hshown =>
    have herror : shown.error = outcome := hshown
    unfold verdict
    dsimp only
    rw [herror]
    cases outcome with
    | none => exact ⟨fun _ _ => rfl, nofun⟩
    | some payload => exact ⟨nofun, fun e _ h => nomatch h⟩

/-- **What the end of the wait says** of a change that was accepted. -/
theorem Accepted.tells {changed : SortedMap MachineId Instance} {op : Operation}
    {target : MachineId} {how : Waited (Except ServiceError Operation)}
    (h : m.Accepted changed op w.state)
    (hw : WaitEnded (backend refusal) cancelAt (awaited target op) poll w how w') :
    (∀ id, settled poll target op how = .ok id → w'.state.instances = changed) ∧
      ∀ e, settled poll target op how = .error e →
        w'.state.instances = m.instances ∨ m.LeavesOpen poll e := by
  have hafter : w'.state.instances = w.state.instances := instances_of_leads (hw.leads rfl)
  have hend : m.MayEnd m.nextOutcome how := by
    have hend := h.runs.looked hw
    unfold MayEnd at hend ⊢
    rw [← h.pollFailures]
    exact hend
  obtain ⟨hok, herror⟩ := settled_tells poll target h.named hend
  rw [hafter, h.instances]
  constructor
  · intro id hid
    rw [hok id hid, if_neg (by simp)]
  · intro e he
    by_cases hout : m.nextOutcome = none
    · exact .inr (herror e he hout)
    · rw [if_pos (Option.isSome_iff_ne_none.mpr hout)]
      exact .inl rfl

theorem not_leavesOpen_resourceExhausted (text : String) :
    ¬ m.LeavesOpen poll (.resourceExhausted text) := by
  rintro (h | h | ⟨f, -, h⟩)
  · cases h
  · cases h
  · exact toMachineError_sufficient f text h.symm

/-! ### Creations -/

theorem CreateTells.of_unchanged {e : MachineError} (h : m'.instances = m.instances) :
    CreateTells m poll name spec secret (.error e) m' :=
  ⟨nofun, fun _ _ => h, fun _ _ _ _ _ => h, fun _ _ hne => absurd h hne⟩

/-- **The result of a creation** says what has become of the store. -/
theorem createTells_of_ends
    (h : CreateEnds (backend refusal) cancelAt poll name spec secret w r w') :
    CreateTells w.state poll name spec secret r w'.state := by
  cases h with
  | outside h => exact .of_unchanged (instances_of_run (Calls.enter secret) h)
  | refused hen hi =>
    have hins := insert_of_call hi
    rw [state_of_entered hen] at hins
    exact .of_unchanged (insert_eq_error hins)
  | @waited project w₁ w₂ w₃ op how _ hen hi hw hr =>
    have hins := insert_of_call hi
    rw [state_of_entered hen] at hins
    obtain ⟨hfree, hacc⟩ := insert_eq_ok hins
    obtain ⟨hok, herror⟩ := hacc.tells hw
    rw [← hr] at hok herror
    refine ⟨fun id hid => ?_, fun text htext => ?_, fun e p he hp htaken => ?_,
      fun e he hne => ?_⟩
    · refine ⟨project, ticket w.state.serial, hen.named, hfree, ?_⟩
      change w₃.state.instances.get? _ = _
      rw [hok id hid]
      exact SortedMap.get?_insert_self
    · exact (herror _ htext).resolve_right (not_leavesOpen_resourceExhausted text)
    · rw [hen.named] at hp
      cases hp
      exact absurd hfree htaken
    · exact (herror e he).resolve_left hne

/-! ### Deletions -/

theorem DeleteTells.of_unchanged {e : MachineError} (h : m'.instances = m.instances) :
    DeleteTells m poll name spec secret (.error e) m' :=
  ⟨nofun, fun _ _ hne => absurd h hne⟩

theorem Surveyed.leavesOpen_iff {e : MachineError} (h : Surveyed m m') :
    m'.LeavesOpen poll e ↔ m.LeavesOpen poll e := by
  obtain ⟨_, _, rfl⟩ := h
  rfl

/-- **The result of a deletion** says what has become of the store. -/
theorem deleteTells_of_ends
    (h : DeleteEnds (backend refusal) cancelAt limits name spec secret w r w') :
    DeleteTells w.state limits.poll name spec secret r w'.state := by
  cases h with
  | outside h => exact .of_unchanged (instances_of_run (Calls.enter secret) h)
  | unsearched hen hs =>
    have hsearch := instances_of_run (Calls.discover fun _ => rfl) hs
    exact .of_unchanged (hsearch.trans (congrArg instances (state_of_entered hen)))
  | missing hen hs =>
    have hsearch := instances_of_run (Calls.discover fun _ => rfl) hs
    exact .of_unchanged (hsearch.trans (congrArg instances (state_of_entered hen)))
  | @refused project w₁ w₂ w' earlier last e _ hen hloc hlen hd hr =>
    have hsame := surveyed_of_located hen hloc
    have hdel := delete_of_call hd
    have hunchanged : w'.state.instances = w.state.instances :=
      (delete_eq_error hdel).trans hsame.instances
    refine ⟨fun id hid => ⟨project, hen.named, .inr ?_⟩, fun _ _ hne => absurd hunchanged hne⟩
    have hanswer : (w.state.delete ⟨project, spec.zone, name⟩).1 = .error e :=
      (hsame.delete_fst _).symm.trans (congrArg Prod.fst hdel)
    rw [hr] at hid
    unfold ofRefusedDeletion at hid
    split at hid
    · next hn =>
      obtain ⟨text, rfl⟩ := ServiceError.isNotFound_iff.mp hn
      exact ⟨text, hanswer⟩
    · cases hid
  | @waited project w₁ w₂ w₃ w₄ earlier last op how _ hen hloc hlen hd hw hr =>
    have hsame := surveyed_of_located hen hloc
    have hacc := delete_eq_ok (delete_of_call hd)
    obtain ⟨hok, herror⟩ := hacc.tells hw
    rw [← hr] at hok herror
    refine ⟨fun id hid => ⟨project, hen.named, .inl ?_⟩, fun e he hne => ?_⟩
    · change w₄.state.instances.get? _ = none
      rw [hok id hid]
      exact SortedMap.get?_erase_self
    · rw [← hsame.instances] at hne
      exact hsame.leavesOpen_iff.mp ((herror e he).resolve_left hne)

/-! ### Everything else -/

theorem AgreeBut.of_instances (h : m'.instances = m.instances) :
    AgreeBut name spec secret m m' := by
  intro k _
  rw [h]

theorem agreeBut_create (refusal : Option ServiceError) (cancelAt : Option Nat) (limits : Limits)
    (name : String) (spec : ProviderSpec) (secret : Secret) (w : World InMemory) :
    AgreeBut name spec secret w.state
      ((backend refusal).run cancelAt (create limits name spec secret) w).state.state := by
  rcases create_leads (backend refusal) cancelAt limits name spec secret w with
    hl | ⟨project, w₁, hen, hl, hl'⟩
  · exact .of_instances (instances_of_leads hl)
  · intro k hk
    have hbefore := instances_of_leads hl
    have hafter := instances_of_leads hl'
    rw [state_of_call] at hafter
    rw [hafter, ← hbefore]
    rcases w₁.state.insert_instances project spec.zone
      (instanceBody name project spec secret.userData) with h | ⟨-, h⟩
    · exact congrArg (SortedMap.get? · k) h
    · refine (congrArg (SortedMap.get? · k) h).trans ?_
      exact SortedMap.get?_insert_of_ne (hk project hen.named)

theorem agreeBut_delete (refusal : Option ServiceError) (cancelAt : Option Nat) (limits : Limits)
    (name : String) (spec : ProviderSpec) (secret : Secret) (w : World InMemory) :
    AgreeBut name spec secret w.state
      ((backend refusal).run cancelAt (Lifecycle.delete limits name spec secret)
        w).state.state := by
  rcases delete_leads (backend refusal) cancelAt limits name spec secret w with
    hl | ⟨project, w₁, earlier, last, w₂, hen, hloc, hl, hl', hl''⟩
  · exact .of_instances (instances_of_leads hl)
  · intro k hk
    have hbefore := instances_of_leads (hl.trans hl')
    have hafter := instances_of_leads hl''
    rw [state_of_call] at hafter
    rw [hafter, ← hbefore]
    rcases w₂.state.delete_instances ⟨project, spec.zone, name⟩ with h | h
    · exact congrArg (SortedMap.get? · k) h
    · refine (congrArg (SortedMap.get? · k) h).trans ?_
      exact SortedMap.get?_erase_of_ne (hk project hen.named)

/-- Nothing was changed and no operation was started or looked at. -/
structure LeftAlone (m m' : InMemory) : Prop where
  instances : m'.instances = m.instances
  operations : m'.operations = m.operations
  serial : m'.serial = m.serial

/-- **A lifecycle call that looks around** leaves the store alone. -/
theorem leftAlone_of_calls {α : Type} {p : Plan α} (hp : p.Calls Surveys)
    (refusal : Option ServiceError) (cancelAt : Option Nat) (w : World InMemory) :
    LeftAlone w.state ((backend refusal).run cancelAt p w).state.state := by
  have h := surveyed_of_leads (hp.leads (h := (backend refusal).handler cancelAt) w)
  exact ⟨h.instances, h.operations, h.serial⟩

/-- **What a result says about the store**, whatever failures are scripted and whenever the call is
cancelled. A creation that succeeds found its name free and has stored its machine; one that reports
exhaustion, or that fails although the name was taken, has changed nothing. A deletion that succeeds
has left no machine of the name, unless the service answered that there was none. If either of them
fails and has changed something, it has timed out, was cancelled, or failed to look at its
operation. Neither touches another machine, and the other calls change nothing and start no
operation. -/
theorem results_tell_store (refusal : Option ServiceError) (cancelAt : Option Nat)
    (limits : Limits) (name : String) (spec : ProviderSpec) (secret : Secret)
    (w : World InMemory) :
    (∀ r w', (backend refusal).run cancelAt (create limits name spec secret) w = .answered r w' →
      CreateTells w.state limits.poll name spec secret r w'.state) ∧
    (∀ r w',
      (backend refusal).run cancelAt (Lifecycle.delete limits name spec secret) w =
        .answered r w' →
      DeleteTells w.state limits.poll name spec secret r w'.state) ∧
    AgreeBut name spec secret w.state
      ((backend refusal).run cancelAt (create limits name spec secret) w).state.state ∧
    AgreeBut name spec secret w.state
      ((backend refusal).run cancelAt (Lifecycle.delete limits name spec secret) w).state.state ∧
    LeftAlone w.state
      ((backend refusal).run cancelAt (status limits name spec secret) w).state.state ∧
    LeftAlone w.state
      ((backend refusal).run cancelAt (Lifecycle.list limits spec secret) w).state.state ∧
    ∀ id, LeftAlone w.state
      ((backend refusal).run cancelAt (describe id secret) w).state.state := by
  refine ⟨fun r w' h => ?_, fun r w' h => ?_, agreeBut_create refusal cancelAt limits name spec
    secret w, agreeBut_delete refusal cancelAt limits name spec secret w,
    leftAlone_of_calls (Calls.status (fun _ _ => trivial) limits name secret) refusal cancelAt w,
    leftAlone_of_calls (Calls.list (fun _ _ => trivial) limits secret) refusal cancelAt w,
    fun id => leftAlone_of_calls (Calls.describe (fun _ => trivial) id secret) refusal cancelAt w⟩
  · obtain ⟨w₁, hends, rfl⟩ := run_create_iff.mp h
    have htells := createTells_of_ends hends
    exact htells
  · obtain ⟨w₁, hends, rfl⟩ := run_delete_iff.mp h
    have htells := deleteTells_of_ends hends
    exact htells

end GceMachines.InMemory
