import GceMachines.Proofs.InMemory.Operations
import GceMachines.Proofs.InMemory.Listing

/-!
# A service that nothing disturbs

Without scripted failures the service in memory answers every call, and at once. A change is then
accepted whenever the store allows it, and the wait for it depends on the numbers alone: it ends
with the look that is the last one, unless the deadline comes first or at the same instant.

* `Quiet`: a service that nothing disturbs; `quiet_of_run`: it stays one.
* `changeResult`, `changeTime`: how the wait for a change ends, and how long it takes.
* `Accepted.exists_settled`: the wait for a change that was accepted.
-/

namespace GceMachines.InMemory

open Lifecycle

/-- **Nothing disturbs a service** with pages of some size and operations of some looks: no failure
is scripted, and looks are answered. -/
structure Quiet (size looks : Nat) (m : InMemory) : Prop where
  noFailures : m.failures = ⟨[], [], [], [], []⟩
  answersLooks : m.pollsHang = false
  pageSize_eq : m.pageSize = size
  looksUntilDone_eq : m.looksUntilDone = looks

variable {size k : Nat} {m m' : InMemory} {project zone name : String} {body : Instance}
  {target : MachineId}

/-! ### Calls -/

namespace Quiet

/-- **Every call** leaves a service as quiet as it was. -/
theorem answer (h : m.Quiet size k) (r : Request) : (InMemory.answer r m).2.Quiet size k := by
  obtain ⟨instances, operations, failures, hang, counts, serial, size, looks, hpos, hnamed⟩ := m
  obtain ⟨rfl, rfl, rfl, rfl⟩ := h
  cases r with
  | insert project zone body =>
    unfold InMemory.answer InMemory.insert
    dsimp only
    split
    · exact ⟨rfl, rfl, rfl, rfl⟩
    · exact ⟨rfl, rfl, rfl, rfl⟩
  | delete target =>
    unfold InMemory.answer InMemory.delete
    dsimp only
    split
    · exact ⟨rfl, rfl, rfl, rfl⟩
    · exact ⟨rfl, rfl, rfl, rfl⟩
  | get target => exact ⟨rfl, rfl, rfl, rfl⟩
  | list project zone token =>
    unfold InMemory.answer InMemory.list
    dsimp only
    cases offset? token <;> exact ⟨rfl, rfl, rfl, rfl⟩
  | operation project zone name =>
    unfold InMemory.answer InMemory.poll
    dsimp only
    cases operations.get? name <;> exact ⟨rfl, rfl, rfl, rfl⟩

theorem nextOutcome (h : m.Quiet size k) : m.nextOutcome = none := by
  unfold InMemory.nextOutcome
  rw [h.noFailures]
  rfl

theorem insert_free (h : m.Quiet size k)
    (hfree : m.instances.get? ⟨project, zone, body.name⟩ = none) :
    ∃ op m', m.insert project zone body = (.ok op, m') := by
  unfold InMemory.insert
  dsimp only
  rw [h.noFailures, SortedMap.contains_eq_false_iff.mpr hfree, if_neg Bool.false_ne_true]
  exact ⟨_, _, rfl⟩

theorem delete_there (h : m.Quiet size k) (hthere : m.instances.contains target = true) :
    ∃ op m', m.delete target = (.ok op, m') := by
  unfold InMemory.delete
  dsimp only
  rw [h.noFailures, hthere, if_pos rfl]
  exact ⟨_, _, rfl⟩

theorem poll_started (h : m.Quiet size k) {looks : Nat} {outcome : Option OperationError}
    (hr : m.Runs name looks outcome) : ∃ op m', m.poll name = (some (.ok op), m') := by
  obtain ⟨o, ho, -⟩ := hr
  unfold InMemory.poll
  dsimp only
  rw [h.answersLooks, if_neg Bool.false_ne_true, h.noFailures, ho]
  exact ⟨_, _, rfl⟩

end Quiet

variable {refusal : Option ServiceError} {cancelAt : Option Nat} {w w' : World InMemory}

/-- **Every run** leaves a service as quiet as it was. -/
theorem quiet_of_leads (hq : w.state.Quiet size k)
    (hl : Program.Leads ((backend refusal).handler cancelAt) (Ask.Calls fun _ => True) w w') :
    w'.state.Quiet size k := by
  have hkeeps : (backend refusal).Keeps (fun _ => True) (Quiet size k) :=
    ⟨fun _ _ h => h, fun r _ _ h => h.answer r, fun _ _ h => h⟩
  exact hl.keeps_state hkeeps hq

theorem quiet_of_run {α : Type} {p : Plan α} {a : α} (hq : w.state.Quiet size k)
    (h : (backend refusal).run cancelAt p w = .answered a w') : w'.state.Quiet size k := by
  have hcalls : p.Calls fun _ => True := .of_forall (fun _ _ _ => trivial) p
  have hl := hcalls.leads (h := (backend refusal).handler cancelAt) w
  unfold Backend.run at h
  rw [h] at hl
  exact quiet_of_leads hq hl

/-! ### Questions that nobody cancels -/

theorem exists_entered {secret : Secret} (hp : secret.project = .ok project) (cancelAt : Option Nat)
    (w : World InMemory) :
    ∃ w', Entered (backend none) cancelAt secret w project w' ∧ w'.state = w.state ∧
      w'.now = w.now :=
  ⟨_, ⟨hp, rfl⟩, rfl, Nat.max_self _⟩

theorem call_of_answer {r : Request} {reply : Except ServiceError r.Reply}
    (h : InMemory.answer r w.state = (some reply, m')) :
    ∃ w', (backend refusal).handler cancelAt (.call r) w = .answered reply w' ∧ w'.state = m' ∧
      w'.now = w.now := by
  have hc : (backend refusal).call r w.state = (.after 0 reply, m') := by
    simp only [backend, h]
    rfl
  simp only [Backend.handler, Backend.seeThrough, hc]
  exact ⟨_, rfl, rfl, Nat.max_self _⟩

/-- **An insertion under a free name** is accepted at once. -/
theorem exists_inserted (hq : w.state.Quiet size k) (body : Instance)
    (hfree : w.state.instances.get? ⟨project, zone, body.name⟩ = none) :
    ∃ op w', (backend refusal).handler cancelAt (.call (.insert project zone body)) w =
        .answered (.ok op) w' ∧
      w'.now = w.now ∧ w'.state.Quiet size k ∧
      w.state.Accepted (w.state.instances.insert ⟨project, zone, body.name⟩
        (created w.state.serial ⟨project, zone, body.name⟩ body)) op w'.state := by
  obtain ⟨op, m', hins⟩ := hq.insert_free hfree
  have ha : InMemory.answer (.insert project zone body) w.state = (some (.ok op), m') := by
    simp only [InMemory.answer, hins]
  obtain ⟨w', hw, rfl, hnow⟩ := call_of_answer ha
  have hq' := hq.answer (.insert project zone body)
  rw [ha] at hq'
  exact ⟨op, w', hw, hnow, hq', (insert_eq_ok hins).2⟩

/-- **A deletion of an instance that is there** is accepted at once. -/
theorem exists_deleted (hq : w.state.Quiet size k)
    (hthere : w.state.instances.contains target = true) :
    ∃ op w', (backend refusal).handler cancelAt (.call (.delete target)) w =
        .answered (.ok op) w' ∧
      w'.now = w.now ∧ w'.state.Quiet size k ∧
      w.state.Accepted (w.state.instances.erase target) op w'.state := by
  obtain ⟨op, m', hdel⟩ := hq.delete_there hthere
  have ha : InMemory.answer (.delete target) w.state = (some (.ok op), m') := by
    simp only [InMemory.answer, hdel]
  obtain ⟨w', hw, rfl, hnow⟩ := call_of_answer ha
  have hq' := hq.answer (.delete target)
  rw [ha] at hq'
  exact ⟨op, w', hw, hnow, hq', delete_eq_ok hdel⟩

theorem look_of_poll {deadline : Nat} {reply : Except ServiceError Operation}
    (hd : w.now < deadline) (h : w.state.poll name = (some reply, m')) :
    ∃ w', (backend refusal).handler none (.bounded (.operation project zone name) deadline) w =
        .answered (.came reply) w' ∧ w'.state = m' ∧ w'.now = w.now := by
  have hc : (backend refusal).call (.operation project zone name) w.state =
      (.after 0 reply, m') := by
    simp only [backend, InMemory.answer, h]
    rfl
  exact (backend refusal).handler_bounded_of_after rfl (by simpa using hd) hc

theorem now_of_walked {token : Option String} {earlier : List InstanceList} {last : InstanceList}
    (hw : Walked (backend refusal) cancelAt project zone token w earlier last w') :
    w'.now = w.now := by
  have hpage : ∀ {token v v' page}, (backend refusal).handler cancelAt
      (.abortable (.list project zone token)) v = .answered (some (.ok page)) v' →
      v'.now = v.now := by
    intro token v v' page h
    obtain ⟨ms, hc, hnow⟩ := Backend.handler_abortable_eq_some _ _ h
    have hr : Response.after 0 (v.state.list project zone token).1 = .after ms (.ok page) :=
      congrArg Prod.fst hc
    rw [hnow, ← (Response.after.inj hr).1, Nat.add_zero]
  induction hw with
  | last hl => exact hpage hl
  | more hl ht hw ih => exact ih.trans (hpage hl)

/-! ### Waits that nobody cancels -/

variable {o : Awaited} {cfg : PollConfig} {deadline planned looks : Nat}
  {outcome : Option OperationError}

/-- **A look that is planned before the deadline** begins as planned and is answered at once. -/
theorem exists_look (hq : w.state.Quiet size k) (hr : w.state.Runs o.name looks outcome)
    (hnow : w.now ≤ planned) (hlt : planned < deadline) :
    ∃ w₁ op w₂,
      (backend refusal).handler none (.sleep planned deadline) w = .answered (.came ()) w₁ ∧
      (backend refusal).handler none (.bounded (.operation o.project o.zone o.name) deadline)
        (w₁.measure .poll) = .answered (.came (.ok op)) w₂ ∧
      w₁.now = planned ∧ w₂.now = planned ∧ w₂.state.Quiet size k ∧
      w₂.state.Runs o.name (looks - 1) outcome ∧ (op.isDone = true ↔ looks ≤ 1) := by
  obtain ⟨w₁, hs, hw₁⟩ := (backend refusal).handler_sleep_of_lt (fun _ => rfl) hnow hlt
  have hsame : (w₁.measure .poll).state = w.state :=
    show w₁.state = w.state from state_of_uncalled rfl hs
  rw [← hsame] at hq hr
  obtain ⟨op, m', hpoll⟩ := hq.poll_started hr
  have hbefore : (w₁.measure .poll).now < deadline := Nat.lt_of_le_of_lt (Nat.le_of_eq hw₁) hlt
  obtain ⟨w₂, hl, rfl, hw₂⟩ := look_of_poll hbefore hpoll
  have hquiet := hq.answer (.operation o.project o.zone o.name)
  rw [show InMemory.answer (.operation o.project o.zone o.name) (w₁.measure .poll).state =
    (some (.ok op), w₂.state) from hpoll] at hquiet
  rcases poll_runs hr hpoll with ⟨e, -, h⟩ | ⟨op', h, hr', -, hdone, -⟩
  · cases h
  · cases h
    exact ⟨w₁, op, w₂, hs, hl, hw₁, hw₂.trans hw₁, hquiet, hr', hdone⟩

/-- **A wait for an operation that was started**, from any look on: it ends with the look that is
the last one, or with the deadline. -/
theorem exists_looked (hq : w.state.Quiet size k) (hr : w.state.Runs o.name looks outcome)
    (hnow : w.now ≤ planned) (hd : w.now ≤ deadline) :
    ∃ how w', Looked (backend refusal) none o cfg deadline planned w how w' ∧
      if planned + (looks - 1) * cfg.intervalMs < deadline then
        (∃ op, how = .came (.ok op)) ∧ w'.now = planned + (looks - 1) * cfg.intervalMs
      else how = .late ∧ w'.now = deadline := by
  induction looks using Nat.strongRecOn generalizing planned w with
  | _ looks ih =>
    by_cases hlt : planned < deadline
    · obtain ⟨w₁, op, w₂, hs, hl, hw₁, hw₂, hq₂, hr₂, hdone⟩ := exists_look hq hr hnow hlt
      by_cases hlast : looks ≤ 1
      · refine ⟨_, w₂, .last hs hl (hdone.mpr hlast), ?_⟩
        have hnone : (looks - 1) * cfg.intervalMs = 0 := by
          rw [Nat.sub_eq_zero_of_le hlast, Nat.zero_mul]
        rw [hnone, Nat.add_zero, if_pos hlt]
        exact ⟨⟨op, rfl⟩, hw₂⟩
      · -- the next look is one interval later, with one look less to go
        have hnext : nextTick cfg.intervalMs planned w₁.now = planned + cfg.intervalMs := by
          rw [hw₁, nextTick, if_pos (Nat.le_add_right _ _)]
        have htime : planned + cfg.intervalMs + (looks - 1 - 1) * cfg.intervalMs =
            planned + (looks - 1) * cfg.intervalMs := by
          obtain ⟨n, rfl⟩ : ∃ n, looks = n + 2 := ⟨looks - 2, by omega⟩
          have hn : (n + 1) * cfg.intervalMs = n * cfg.intervalMs + cfg.intervalMs :=
            Nat.succ_mul _ _
          show planned + cfg.intervalMs + n * cfg.intervalMs = planned + (n + 1) * cfg.intervalMs
          omega
        have hbefore : w₂.now ≤ planned + cfg.intervalMs := by omega
        obtain ⟨how, w', hlooked, hend⟩ :=
          ih (looks - 1) (by omega) hq₂ hr₂ hbefore (by omega)
        rw [htime] at hend
        have hnot : op.isDone = false := by
          rw [← Bool.not_eq_true, hdone]
          exact hlast
        exact ⟨how, w', .more hs hl hnot (hnext ▸ hlooked), hend⟩
    · obtain ⟨w', hs, hw'⟩ := (backend refusal).handler_sleep_of_le (fun _ => rfl) hd (Nat.not_lt.mp hlt)
      refine ⟨.late, w', .lateAsleep hs, ?_⟩
      rw [if_neg (by omega)]
      exact ⟨rfl, hw'⟩

/-! ### Changes -/

/-- **How the wait for a change ends** whose operation is done after some looks. -/
def changeResult (poll : PollConfig) (looks : Nat) (id operation : String) :
    Except MachineError String :=
  if max 1 looks * poll.intervalMs < poll.timeoutMs then .ok id
  else .error (.timeout operation poll.timeoutMs)

/-- **How long such a wait takes**, in milliseconds. -/
def changeTime (poll : PollConfig) (looks : Nat) : Nat :=
  min (max 1 looks * poll.intervalMs) poll.timeoutMs

theorem lookTime_eq (now looks interval : Nat) :
    now + interval + (looks - 1) * interval = now + max 1 looks * interval := by
  obtain ⟨n, hn⟩ : ∃ n, max 1 looks = n + 1 := ⟨max 1 looks - 1, by omega⟩
  have hlooks : looks - 1 = n := by omega
  have hsucc : (n + 1) * interval = n * interval + interval := Nat.succ_mul _ _
  rw [hlooks, hn]
  omega

/-- **A wait for an operation that was started**, from its beginning. -/
theorem exists_waitEnded (hq : w.state.Quiet size k) (hr : w.state.Runs o.name looks outcome)
    (cfg : PollConfig) :
    ∃ how w', WaitEnded (backend refusal) none o cfg w how w' ∧
      if max 1 looks * cfg.intervalMs < cfg.timeoutMs then
        (∃ op, how = .came (.ok op)) ∧ w'.now = w.now + max 1 looks * cfg.intervalMs
      else how = .late ∧ w'.now = w.now + cfg.timeoutMs := by
  have hlooked : ∃ how w', WaitEnded (backend refusal) none o cfg w how w' ∧ _ :=
    exists_looked hq hr (Nat.le_add_right _ _) (Nat.le_add_right _ _)
  rw [lookTime_eq] at hlooked
  simpa only [Nat.add_lt_add_iff_left] using hlooked

/-- **The wait for a change that was accepted.** -/
theorem Accepted.exists_settled {changed : SortedMap MachineId Instance} {op : Operation}
    (hacc : m.Accepted changed op w.state) (hq : m.Quiet size k) (hq' : w.state.Quiet size k)
    (poll : PollConfig) (target : MachineId) :
    ∃ how w', WaitEnded (backend refusal) none (awaited target op) poll w how w' ∧
      settled poll target op how = changeResult poll k target.text (operationName m.serial) ∧
      w'.now = w.now + changeTime poll k ∧ w'.state.instances = changed := by
  have hr : w.state.Runs op.name k none := by
    have hr := hacc.runs
    rw [hq.nextOutcome, hq.looksUntilDone_eq] at hr
    exact hr
  obtain ⟨how, w', hw, hend⟩ : ∃ how w', WaitEnded (backend refusal) none (awaited target op) poll
      w how w' ∧ _ := exists_waitEnded hq' hr poll
  have hinstances : w'.state.instances = changed := by
    rw [instances_of_leads (hw.leads rfl), hacc.instances, hq.nextOutcome]
    rfl
  refine ⟨how, w', hw, ?_, ?_, hinstances⟩
  · unfold changeResult
    split at hend
    · next hlt =>
      obtain ⟨⟨shown, rfl⟩, -⟩ := hend
      have herror : shown.error = none := hr.looked hw
      rw [if_pos hlt]
      simp only [settled, meaning, verdict, herror]
      rfl
    · next hlt =>
      obtain ⟨rfl, -⟩ := hend
      rw [if_neg hlt, ← hacc.named]
      rfl
  · unfold changeTime
    split at hend
    · next hlt => rw [hend.2, Nat.min_eq_left (Nat.le_of_lt hlt)]
    · next hlt => rw [hend.2, Nat.min_eq_right (Nat.not_lt.mp hlt)]

end GceMachines.InMemory
