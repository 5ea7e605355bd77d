import GceMachines.Proofs.Crowd.Ledger
import GceMachines.Proofs.Crowd.Waits

/-!
# Attempts at changes

Several callers attempt the same kind of change, each of a machine of its own or all of the same.
What the journal has of each of them is kept apart, and no caller adds to what another has done.

* `Request.asks?`: the change that a call asks for.
* `Journal.changesOf`: the changes that were accepted for a caller.
* `Attempt`, `Asking`: an attempt, and the calls of a number of attempts.
* `Attempted`: what is known of a service among attempts, and `Attempted.recorded`.
* `secure_enter`, `secure_finish`, `Secure.counted`: what attempts have in common.
* `attempts`, `attempts_settle`: attempts that begin together, and what they come to.
-/

namespace GceMachines

open InMemory (Quiet operationName)
open Journal (Meanwhile Around Recorded)
open Lifecycle

/-- **The change that a call asks for.** -/
def Request.asks? : Request → Option (ChangeKind × MachineId)
  | .insert project zone body => some (.insertion, ⟨project, zone, body.name⟩)
  | .delete target => some (.deletion, target)
  | .get _ => none
  | .list _ _ _ => none
  | .operation _ _ _ => none

theorem Request.asks?_of_reads {r : Request} (h : r.Reads) : r.asks? = none := by
  cases r with
  | insert => cases h
  | delete => cases h
  | get => rfl
  | list => rfl
  | operation => rfl

theorem InMemory.asks?_of_change? {m : InMemory} {r : Request} {ch : Change}
    (h : m.change? r = some ch) :
    r.asks? = some (ch.kind, ch.target) ∧ ch.outcome = m.nextOutcome := by
  cases r with
  | get => cases h
  | list => cases h
  | operation => cases h
  | insert project zone body =>
    simp only [change?] at h
    split at h
    · cases h
      exact ⟨rfl, rfl⟩
    · cases h
  | delete target =>
    simp only [change?] at h
    split at h
    · cases h
      exact ⟨rfl, rfl⟩
    · cases h

theorem InMemory.change?_eq_none {r : Request} (h : r.asks? = none) (m : InMemory) :
    m.change? r = none := by
  cases hc : m.change? r with
  | none => rfl
  | some ch =>
    rw [(asks?_of_change? hc).1] at h
    cases h

/-! ### Who did what -/

namespace Journal

variable {j j' : Journal} {i k : Nat} {r : Request} {ch : Change}

/-- The changes that were accepted, each with its caller. -/
def authored (j : Journal) : List (Nat × Change) :=
  j.visits.filterMap fun v => v.change.map fun ch => (v.caller, ch)

/-- **The changes that were accepted for a caller**, the first one first. -/
def changesOf (j : Journal) (i : Nat) : List Change :=
  (j.authored.filter fun x => x.1 = i).map Prod.snd

theorem authored_record (i : Nat) (r : Request) (j : Journal) :
    (j.record i r).authored = j.authored ++ ((j.service.change? r).map (i, ·)).toList := by
  unfold authored
  rw [visits_record, List.filterMap_append]
  cases j.service.change? r <;> simp

theorem changes_eq_authored (j : Journal) : j.changes = j.authored.map Prod.snd := by
  unfold changes authored
  rw [List.map_filterMap]
  congr
  funext v
  cases v.change <;> rfl

theorem changesOf_record (i k : Nat) (r : Request) (j : Journal) :
    (j.record k r).changesOf i =
      j.changesOf i ++ if k = i then (j.service.change? r).toList else [] := by
  unfold changesOf
  rw [authored_record, List.filter_append, List.map_append]
  cases j.service.change? r with
  | none => simp
  | some ch =>
    by_cases hk : k = i <;> simp [hk]

theorem mem_changesOf : ch ∈ j.changesOf i ↔ (i, ch) ∈ j.authored := by
  unfold changesOf
  rw [List.mem_map]
  constructor
  · rintro ⟨⟨i', ch'⟩, hx, rfl⟩
    obtain ⟨hx, hi⟩ := List.mem_filter.mp hx
    exact of_decide_eq_true hi ▸ hx
  · exact fun hx => ⟨_, List.mem_filter.mpr ⟨hx, decide_eq_true rfl⟩, rfl⟩

theorem changesOf_of_single (h : j.authored = [(k, ch)]) (i : Nat) :
    j.changesOf i = if k = i then [ch] else [] := by
  unfold changesOf
  rw [h]
  by_cases hk : k = i <;> simp [hk]

theorem changesOf_of_around {P : Nat → Request → Prop} (h : Around P i Request.Reads j j') :
    j'.changesOf i = j.changesOf i := by
  refine Recorded.keeps (I := fun j' => j'.changesOf i = j.changesOf i) (fun k r j' hr hj => ?_) h
    rfl
  rw [changesOf_record, hj]
  split at hr
  · rw [InMemory.change?_eq_none (Request.asks?_of_reads hr)]
    simp
  · next hk => rw [if_neg hk, List.append_nil]

/-- **A machine that is there** stays there if nobody asks for its deletion. -/
theorem stays_of_recorded {P : Nat → Request → Prop} {t : MachineId} {inst : Instance}
    (hP : ∀ i r, P i r → r.asks? ≠ some (.deletion, t)) (h : Recorded P j j')
    (ht : j.service.instances.get? t = some inst) :
    j'.service.instances.get? t = some inst := by
  refine h.keeps (I := fun j => j.service.instances.get? t = some inst) (fun k r j hr hj => ?_) ht
  rw [service_record]
  cases hc : j.service.change? r with
  | none =>
    rw [(InMemory.unmade_of_change? hc).instances_eq]
    exact hj
  | some ch =>
    refine ((InMemory.made_of_change? hc).keeps hj).resolve_right fun h => hP k r hr ?_
    rw [(InMemory.asks?_of_change? hc).1, h.1.1, h.1.2.1]

/-- **A machine that is absent** stays absent if nobody asks for its insertion. -/
theorem absent_of_recorded {P : Nat → Request → Prop} {t : MachineId}
    (hP : ∀ i r, P i r → r.asks? ≠ some (.insertion, t)) (h : Recorded P j j')
    (ht : j.service.instances.get? t = none) : j'.service.instances.get? t = none := by
  refine h.keeps (I := fun j => j.service.instances.get? t = none) (fun k r j hr hj => ?_) ht
  rw [service_record]
  cases hc : j.service.change? r with
  | none =>
    rw [(InMemory.unmade_of_change? hc).instances_eq]
    exact hj
  | some ch =>
    refine ((InMemory.made_of_change? hc).keeps_absent hj).resolve_right fun h => hP k r hr ?_
    rw [(InMemory.asks?_of_change? hc).1, h.1, h.2.1]

end Journal

/-! ### Attempts -/

/-- **An attempt** at a change of a machine, which begins at an instant. -/
structure Attempt where
  target : MachineId
  limits : Limits
  spec : ProviderSpec
  secret : Secret
  start : Nat

/-- An attempt is made for its machine, and waits long enough for operations of some looks. -/
structure Attempt.Ready (looks : Nat) (a : Attempt) : Prop where
  project_eq : a.secret.project = .ok a.target.project
  zone_eq : a.spec.zone = a.target.zone
  inTime : max 1 looks * a.limits.poll.intervalMs < a.limits.poll.timeoutMs

/-- **The calls of attempts** at changes of one kind: each asks for changes of its machine only. -/
def Asking (kind : ChangeKind) (as : List Attempt) (i : Nat) (r : Request) : Prop :=
  ∃ a, as[i]? = some a ∧ ∀ x ∈ r.asks?, x = (kind, a.target)

/-- **A service among attempts**: nothing disturbs it, and all changes since it was `m` are those
that were attempted. -/
structure Attempted (kind : ChangeKind) (as : List Attempt) (size looks : Nat) (m : InMemory)
    (j : Journal) : Prop where
  quiet : j.service.Quiet size looks
  ledger : Ledger m j
  authored : ∀ x ∈ j.authored, ∃ a, as[x.1]? = some a ∧ x.2.kind = kind ∧ x.2.target = a.target ∧
    x.2.outcome = none

variable {kind : ChangeKind} {as : List Attempt} {a : Attempt} {size k i : Nat} {m : InMemory}
  {j j' : Journal} {P : Nat → Request → Prop} {w w' : World Journal} {secret : Secret}
  {project : String}

theorem Attempted.start (hq : m.Quiet size k) : Attempted kind as size k m ⟨m, []⟩ :=
  ⟨hq, .open m, nofun⟩

/-- **Attempts leave it so.** -/
theorem Attempted.recorded (h : Attempted kind as size k m j)
    (hr : Recorded (Asking kind as) j j') : Attempted kind as size k m j' := by
  refine hr.keeps (I := Attempted kind as size k m) (fun i r j hr h => ?_) h
  refine ⟨h.quiet.answer r, h.ledger.record i r, fun x hx => ?_⟩
  rw [Journal.authored_record, List.mem_append] at hx
  rcases hx with hx | hx
  · exact h.authored x hx
  · cases hc : j.service.change? r with
    | none =>
      rw [hc] at hx
      cases hx
    | some ch =>
      rw [hc] at hx
      obtain rfl : x = (i, ch) := by simpa using hx
      obtain ⟨a, ha, hasks⟩ := hr
      obtain ⟨hch, hout⟩ := InMemory.asks?_of_change? hc
      obtain ⟨hkind, htarget⟩ := Prod.ext_iff.mp (hasks _ hch)
      exact ⟨a, ha, hkind, htarget, hout.trans h.quiet.nextOutcome⟩

theorem Attempted.of_mem_changes (h : Attempted kind as size k m j) {ch : Change}
    (hch : ch ∈ j.changes) :
    ch.kind = kind ∧ ch.outcome = none ∧ ∃ a ∈ as, ch.target = a.target := by
  rw [j.changes_eq_authored, List.mem_map] at hch
  obtain ⟨x, hx, rfl⟩ := hch
  obtain ⟨a, ha, hkind, htarget, hout⟩ := h.authored x hx
  exact ⟨hkind, hout, a, List.mem_of_getElem? ha, htarget⟩

theorem Attempted.effects_eq (h : Attempted kind as size k m j) {t : MachineId}
    (ht : ∀ a ∈ as, a.target = t) : j.effects kind t = j.changes.length := by
  unfold Journal.effects
  rw [List.countP_eq_length]
  intro ch hch
  obtain ⟨hkind, hout, a, ha, htarget⟩ := h.of_mem_changes hch
  exact decide_eq_true ⟨hkind, htarget.trans (ht a ha), hout⟩

theorem Attempted.effects_other (h : Attempted kind as size k m j) {kind' : ChangeKind}
    {t : MachineId} (hne : kind' ≠ kind) : j.effects kind' t = 0 := by
  unfold Journal.effects
  rw [List.countP_eq_zero]
  intro ch hch hd
  exact hne ((of_decide_eq_true hd).1.symm.trans (h.of_mem_changes hch).1)

theorem recorded_of_around (ha : as[i]? = some a)
    (h : Around (Asking kind as) i Request.Reads j j') : Recorded (Asking kind as) j j' := by
  refine Recorded.mono (fun k r hr => ?_) h
  split at hr
  · next hk =>
    subst hk
    exact ⟨a, ha, by simp [Request.asks?_of_reads hr]⟩
  · exact hr

/-! ### Parts of attempts -/

theorem calls_entered {α : Type} {R : Request → Prop} (hp : secret.project = .ok project)
    {f : String → Plan (Except MachineError α)} (hf : (f project).Calls R) :
    Plan.Calls R ((enter secret).bindOk f) := by
  unfold enter
  rw [hp]
  refine ⟨calls_of_request?_eq_none rfl, fun r => ?_⟩
  cases r with
  | ok _ => exact hf
  | error e => trivial

/-- **A project that is named** is entered. -/
theorem secure_enter (hp : secret.project = .ok project) :
    Secure P i (fun r w' => ∃ p, r = .ok p ∧ p = project ∧ Meanwhile P i w.state w'.state)
      (enter secret) 1 w := by
  unfold enter
  rw [hp]
  intro j hj
  refine ⟨.ok (), _, rfl, fun j' hj' => ⟨project, rfl, rfl, hj.trans hj'⟩⟩

/-- **The wait for a change that was accepted** ends with the id of its machine. -/
theorem secure_finish {limits : Limits} {target : MachineId} {op : Operation}
    (hq : w.state.service.Quiet size k) (hu : w.state.service.Underway op.name k)
    (ht : max 1 k * limits.poll.intervalMs < limits.poll.timeoutMs) :
    Secure P i (fun r w' => r = .ok target.text ∧ Around P i Request.Reads w.state w'.state)
      (finish limits target op) (4 * max 1 k + 2) w := by
  have hwait : Secure P i (Waited.Well P i w.state)
      (awaitOperation ⟨target.project, target.zone, op.name⟩ limits.poll) (4 * max 1 k + 2) w :=
    secure_awaitOperation hq hu ht
  have hok := hwait.imp fun r w' (h : Waited.Well P i w.state r w') =>
    (⟨(), h.1, h.2⟩ : ∃ a, r = .ok a ∧ Around P i Request.Reads w.state w'.state)
  refine (Secure.bindOk hok fun _ w' haround => ?_ : Secure P i _ _ (4 * max 1 k + 2 + 0) w)
  exact fun j hj => ⟨rfl, haround.trans hj.around⟩

/-- **A call that is answered** is written down. -/
theorem exists_called {r : Request} {reply : Except ServiceError r.Reply}
    (h : (InMemory.answer r w.state.service).1 = some reply) :
    ∃ w', (Journal.backend i none).handler none (.call r) w = .answered reply w' ∧
      w'.state = w.state.record i r := by
  simp only [Backend.handler, Backend.seeThrough, Journal.backend, h]
  exact ⟨_, rfl, rfl⟩

/-- **A change that was accepted** is waited for. -/
theorem secure_accepted {limits : Limits} {target : MachineId} {r : Request} {op : Operation}
    {ch : Change} (hq : j.service.Quiet size k) (hchange : j.service.change? r = some ch)
    (hop : ch.operation = op.name) (hsame : w.state = j.record i r)
    (ht : max 1 k * limits.poll.intervalMs < limits.poll.timeoutMs) :
    Secure P i (fun r w' => r = .ok target.text ∧ Around P i Request.Reads w.state w'.state)
      (finish limits target op) (4 * max 1 k + 2) w := by
  have hq' : w.state.service.Quiet size k := hsame ▸ hq.answer r
  refine secure_finish hq' ?_ ht
  rw [hsame, ← hop]
  exact (InMemory.made_of_change? hchange).underway hq

/-- **A counted call** ends as without the count. -/
theorem Secure.counted {α : Type} {Q : Except MachineError α → Journal → Prop}
    {call : LifecycleCall} {p : Plan (Except MachineError α)} {n : Nat}
    (hQ : ∀ r j j', Meanwhile P i j j' → Q r j → Q r j')
    (h : Secure P i (fun r w => Q r w.state) p n w) :
    Secure P i (fun r w => Q r w.state) (Lifecycle.counted call p) (n + 1) w := by
  refine h.bind fun r w' hr j hj => ⟨(), _, rfl, fun j' hj' => ?_⟩
  exact hQ r _ _ (hj.trans hj') hr

/-! ### All of them -/

/-- **Attempts that begin together**, each with its plan. -/
def attempts (m : InMemory) (plan : Attempt → Plan (Except MachineError String))
    (as : List Attempt) : Crowd Journal (Except MachineError String) :=
  Crowd.calling m (as.map fun a => (a.start, plan a))

/-- **What attempts come to** whose plans are secure. -/
theorem attempts_settle {plan : Attempt → Plan (Except MachineError String)}
    (Ends : Attempt → Nat → Except MachineError String → Journal → Prop) (turns : Attempt → Nat)
    (h : ∀ i a, as[i]? = some a → (plan a).Calls (Asking kind as i) ∧
      Secure (Asking kind as) i (fun r w => Ends a i r w.state) (plan a) (turns a)
        ⟨a.start, ⟨m, []⟩, [], []⟩)
    (schedule : List Nat) :
    (∀ i a, as[i]? = some a → turns a ≤ schedule.count i →
      ∃ r, ((attempts m plan as).run schedule).result? i = some r) ∧
    (∀ i a r, as[i]? = some a → ((attempts m plan as).run schedule).result? i = some r →
      Ends a i r ((attempts m plan as).run schedule).state) ∧
    Recorded (Asking kind as) ⟨m, []⟩ ((attempts m plan as).run schedule).state := by
  have hsecured : Secured (Asking kind as) (fun i r j => ∀ a, as[i]? = some a → Ends a i r j)
      (fun i => (as[i]?.map turns).getD 0) (attempts m plan as) := by
    refine Secured.calling fun i call hcall => ?_
    rw [List.getElem?_map] at hcall
    obtain ⟨a, ha, rfl⟩ := Option.map_eq_some_iff.mp hcall
    obtain ⟨hcalls, hs⟩ := h i a ha
    simp only [ha, Option.map_some, Option.getD_some]
    refine ⟨hcalls, hs.imp fun r w hr a' ha' => ?_⟩
    cases ha'
    exact hr
  have hlength : (attempts m plan as).callers.length = as.length := by
    simp [attempts, Crowd.calling]
  obtain ⟨hturns, hends, hrec⟩ := hsecured.settled schedule
  refine ⟨fun i a ha ht => hturns i ?_ ?_, fun i a r ha hr => hends i r hr a ha, hrec⟩
  · rw [hlength]
    exact (List.getElem?_eq_some_iff.mp ha).1
  · rw [ha]
    exact ht

end GceMachines
