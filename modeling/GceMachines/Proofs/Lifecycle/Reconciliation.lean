import GceMachines.Proofs.Lifecycle.Endings
import GceMachines.Proofs.Lifecycle.Recording
import GceMachines.Proofs.Remote.Recording

/-!
# Counts that reconcile

Looks are counted where a wait makes them, waits where they end, and lifecycle calls where they come
to their result. What was counted agrees with the record of the calls all the same: a look is
counted right before it is made, and a wait that follows an accepted change always ends. Between the
two places something is open, which the next count closes.

* `Reconciled`: the counts agree with the record, but for what is open.
* `Reconciled.noted`, `Reconciled.polled`, `Reconciled.waited`, `Reconciled.finished`: one step.
* `Reconciled.looked`, `exists_looked`: a wait makes the looks that it counts, and it ends.
* `Settles`: a plan behind which nothing is open.
* `Settles.change`: a change, with its wait if it is accepted.
* `Accounted`, `accounted_create`, `accounted_delete`, …: the lifecycle calls.
-/

namespace GceMachines

/-- The end of a lifecycle call: which call, and its failure if it failed. -/
abbrev Ending : Type := LifecycleCall × Option ErrorCode

/-- The end that is counted. -/
def Measure.ending? : Measure → Option Ending
  | .finished call failure => some (call, failure)
  | _ => none

/-- A question that neither counts nor looks at an operation nor asks for a change. -/
structure Ask.Idle (q : Ask) : Prop where
  calls : q.Calls fun r => r.isLook = false ∧ r.isMutation = false
  counts_not : ∀ m, q ≠ .count m

namespace Lifecycle

open World (Noted)

variable {σ α β : Type} {b : Backend σ} {cancelAt : Option Nat} {ahead due : Nat}
  {ended : List Ending} {w w' : World (σ × List Served)} {more : List Served}

/-- **The counts reconcile with the record**, but for what is open: looks that are counted ahead,
and accepted changes whose wait is due to be counted. The ends that were counted are given, the
latest first. -/
structure Reconciled (ahead due : Nat) (ended : List Ending) (w : World (σ × List Served)) :
    Prop where
  asked : w.state.2.map Served.request = w.asked
  ended : w.measures.filterMap Measure.ending? = ended
  polls : w.measures.count .poll = w.state.2.countP Served.isLook + ahead
  waits : w.measures.count .operationWait + due = w.state.2.countP Served.isAccepted

namespace Reconciled

theorem start (s : σ) : Reconciled 0 0 [] (.start (s, [])) := ⟨rfl, rfl, rfl, rfl⟩

/-! ### One step -/

theorem noted (looks waits : Nat) (h : Reconciled (ahead + looks) due ended w)
    (hn : Noted more w w') (hl : more.countP Served.isLook = looks)
    (ha : more.countP Served.isAccepted = waits) : Reconciled ahead (due + waits) ended w' where
  asked := by rw [hn.record, hn.asked, List.map_append, h.asked]
  ended := by rw [hn.measures, h.ended]
  polls := by
    rw [hn.measures, hn.record, List.countP_append, h.polls, hl]
    omega
  waits := by
    rw [hn.measures, hn.record, List.countP_append, ← h.waits, ha]
    omega

theorem quiet (h : Reconciled ahead due ended w) (hn : Noted [] w w') :
    Reconciled ahead due ended w' := h.noted 0 0 hn rfl rfl

theorem measured {m : Measure} (h : Reconciled ahead (due + [m].count .operationWait) ended w) :
    Reconciled (ahead + [m].count .poll) due (m.ending?.toList ++ ended) (w.measure m) where
  asked := h.asked
  ended := by
    show ([m] ++ w.measures).filterMap Measure.ending? = _
    rw [List.filterMap_append, h.ended]
    cases m <;> rfl
  polls := by
    show ([m] ++ w.measures).count .poll = w.state.2.countP Served.isLook + _
    rw [List.count_append, h.polls]
    omega
  waits := by
    show ([m] ++ w.measures).count .operationWait + due = w.state.2.countP Served.isAccepted
    rw [List.count_append, ← h.waits]
    omega

theorem polled (h : Reconciled ahead due ended w) :
    Reconciled (ahead + 1) due ended (w.measure .poll) := h.measured (m := .poll)

theorem waited (h : Reconciled ahead (due + 1) ended w) :
    Reconciled ahead due ended (w.measure .operationWait) := h.measured (m := .operationWait)

theorem finished (h : Reconciled ahead due ended w) (call : LifecycleCall)
    (failure : Option ErrorCode) :
    Reconciled ahead due ((call, failure) :: ended) (w.measure (.finished call failure)) :=
  h.measured (m := .finished call failure)

theorem handler (h : Reconciled ahead due ended w) {q : Ask} (hq : q.Idle) :
    Reconciled ahead due ended (b.recording.handler cancelAt q w).state := by
  obtain hn | ⟨r, hr, hn⟩ := b.noted_handler cancelAt hq.counts_not w
  · exact h.quiet hn
  · obtain ⟨hlook, hmut⟩ := hq.calls r hr
    refine h.noted 0 0 hn ?_ ?_
    · simp [Served.isLook, hlook]
    · simp [Served.isAccepted, hmut]

theorem leads (h : Reconciled ahead due ended w)
    (hl : Program.Leads (b.recording.handler cancelAt) Ask.Idle w w') :
    Reconciled ahead due ended w' := by
  refine hl.keeps (I := Reconciled ahead due ended) (fun q v hq hv => ?_) h
  exact hv.handler hq

/-! ### Waiting -/

theorem slept (h : Reconciled ahead due ended w) {planned deadline : Nat} {a : Waited Unit}
    (hs : b.recording.handler cancelAt (.sleep planned deadline) w = .answered a w') :
    Reconciled ahead due ended w' := by
  have hn := b.noted_sleep cancelAt planned deadline w
  rw [hs] at hn
  exact h.quiet hn

/-- **A look that is counted is made**, so nothing stays open between a sleep that has come to its
end and the next one. -/
theorem look (h : Reconciled 0 due ended w) {planned deadline : Nat} {r : Request}
    (hr : r.isLook = true) {w₁ : World (σ × List Served)}
    (hs : b.recording.handler cancelAt (.sleep planned deadline) w = .answered (.came ()) w₁) :
    Reconciled 0 due ended
      (b.recording.handler cancelAt (.bounded r deadline) (w₁.measure .poll)).state := by
  refine (h.slept hs).polled.noted 1 0 (Backend.noted_bounded hs .poll r) ?_ ?_
  · simp [Served.isLook, hr]
  · simp [Served.isAccepted, Request.isMutation_eq_false hr]

/-- **A wait makes the looks that it counts.** -/
theorem looked {o : Awaited} {cfg : PollConfig} {deadline planned : Nat}
    {how : Waited (Except ServiceError Operation)}
    (hl : Looked b.recording cancelAt o cfg deadline planned w how w')
    (h : Reconciled 0 due ended w) : Reconciled 0 due ended w' := by
  induction hl with
  | cancelledAsleep hs => exact h.slept hs
  | lateAsleep hs => exact h.slept hs
  | last hs hb _ =>
    have hmade := h.look (r := .operation o.project o.zone o.name) rfl hs
    rwa [hb] at hmade
  | more hs hb _ _ ih =>
    have hmade := h.look (r := .operation o.project o.zone o.name) rfl hs
    rw [hb] at hmade
    exact ih hmade

end Reconciled

theorem firstOf_answered (v : World α) (cancelAt : Option Nat) (deadline : Nat)
    (comes : Option (Nat × β)) :
    ∃ a v', Backend.firstOf v cancelAt (some deadline) comes = .answered a v' := by
  rcases Backend.firstOf_cases v cancelAt (some deadline) comes with
    ⟨_, -, -, -, hf⟩ | ⟨_, -, -, -, hf⟩ | ⟨_, -, -, -, hf⟩ | ⟨h, -, -⟩
  · exact ⟨_, _, hf⟩
  · exact ⟨_, _, hf⟩
  · exact ⟨_, _, hf⟩
  · cases h

theorem sleep_answered (b : Backend σ) (cancelAt : Option Nat) (planned deadline : Nat)
    (v : World σ) : ∃ a v', b.handler cancelAt (.sleep planned deadline) v = .answered a v' := by
  simp only [Backend.handler]
  split
  · exact ⟨_, _, rfl⟩
  · obtain ⟨a, v', hf⟩ := firstOf_answered v cancelAt deadline (some (planned, ()))
    rw [hf]
    exact ⟨_, _, rfl⟩

theorem bounded_answered (b : Backend σ) (cancelAt : Option Nat) (r : Request) (deadline : Nat)
    (v : World σ) : ∃ a v', b.handler cancelAt (.bounded r deadline) v = .answered a v' := by
  show ∃ a v', b.waitFor cancelAt (some deadline) r v = .answered a v'
  unfold Backend.waitFor
  split
  · exact ⟨_, _, rfl⟩
  · split
    · exact ⟨_, _, rfl⟩
    · cases b.call r v.state with | _ response s =>
      cases response with
      | after ms result => exact firstOf_answered _ _ _ _
      | never =>
        dsimp only
        split
        · exact ⟨_, _, rfl⟩
        · exact firstOf_answered _ _ _ _

/-- **A wait always ends**, whatever the backend does. -/
theorem exists_looked (b : Backend σ) (cancelAt : Option Nat) (o : Awaited) (cfg : PollConfig)
    (deadline planned : Nat) (v : World σ) :
    ∃ how v', Looked b cancelAt o cfg deadline planned v how v' := by
  obtain ⟨slept, v₁, hs⟩ := sleep_answered b cancelAt planned deadline v
  match slept, hs with
  | .cancelled, hs => exact ⟨_, _, .cancelledAsleep hs⟩
  | .late, hs => exact ⟨_, _, .lateAsleep hs⟩
  | .came (), hs =>
    have hlt := (Backend.sleep_eq_came hs).1
    obtain ⟨how, v₂, hl⟩ := bounded_answered b cancelAt (.operation o.project o.zone o.name)
      deadline (v₁.measure .poll)
    cases he : isEnd how with
    | true => exact ⟨how, v₂, .last hs hl he⟩
    | false =>
      match how, hl, he with
      | .came (.ok op), hl, he =>
        obtain ⟨how', v', hr⟩ := exists_looked b cancelAt o cfg deadline
          (nextTick cfg.intervalMs planned v₁.now) v₂
        exact ⟨how', v', .more hs hl he hr⟩
termination_by deadline - planned
decreasing_by
  have := lt_nextTick cfg.interval_pos planned v₁.now
  omega

/-! ### Plans -/

/-- **A plan behind which nothing is open**, if some waits are due before it. -/
def Settles (b : Backend σ) (cancelAt : Option Nat) (due : Nat) (p : Plan α) : Prop :=
  ∀ ⦃ended w⦄, Reconciled 0 due ended w →
    Reconciled 0 0 ended (p.run (b.recording.handler cancelAt) w).state

namespace Settles

theorem of_idle {p : Plan α} (hp : p.Asks Ask.Idle) : Settles b cancelAt 0 p :=
  fun _ w h => h.leads (hp.leads w)

theorem bindOk {p : Plan (Except MachineError α)} {f : α → Plan (Except MachineError β)}
    (hp : Settles b cancelAt 0 p) (hf : ∀ a, Settles b cancelAt 0 (f a)) :
    Settles b cancelAt 0 (p.bindOk f) := by
  intro ended w h
  have hafter := hp h
  cases hrun : p.run (b.recording.handler cancelAt) w with
  | stuck w₁ =>
    rw [hrun] at hafter
    rw [Program.run_bindOk_of_stuck f hrun]
    exact hafter
  | answered r w₁ =>
    rw [hrun] at hafter
    cases r with
    | error e =>
      rw [Program.run_bindOk_of_error f hrun]
      exact hafter
    | ok a =>
      rw [Program.run_bindOk_of_ok f hrun]
      exact hf a hafter

theorem finish (limits : Limits) (m : MachineId) (op : Operation) :
    Settles b cancelAt 1 (Lifecycle.finish limits m op) := by
  intro ended w h
  obtain ⟨how, w₁, hl⟩ := exists_looked b.recording cancelAt (awaited m op) limits.poll
    (w.now + limits.poll.timeoutMs) (w.now + limits.poll.intervalMs) w
  rw [run_finish_iff.mpr ⟨how, w₁, hl, rfl, rfl⟩]
  exact (h.looked hl).waited

/-- **A change is followed by its wait** exactly if it is accepted. -/
theorem change {r : Request} (hr : r.isMutation = true)
    {next : Except ServiceError r.Reply → Plan (Except MachineError α)}
    (hok : ∀ a, Settles b cancelAt 1 (next (.ok a)))
    (herror : ∀ e, Settles b cancelAt 0 (next (.error e))) :
    Settles b cancelAt 0 (.ask (.call r) next) := by
  intro ended w h
  have hnolook : [b.served r w].countP Served.isLook = 0 := by
    simp [Served.isLook, Request.isLook_eq_false hr]
  have hn := b.noted_call cancelAt r w
  cases ha : b.recording.handler cancelAt (.call r) w with
  | stuck w₁ =>
    have hnever := Backend.call_of_stuck ha
    rw [ha] at hn
    rw [Program.run_ask_of_stuck next ha]
    exact h.noted 0 0 hn hnolook (by simp [Served.isAccepted, hnever])
  | answered reply w₁ =>
    obtain ⟨ms, hafter⟩ := Backend.call_of_answered ha
    rw [ha] at hn
    rw [Program.run_ask_of_answered next ha]
    cases reply with
    | error e =>
      exact herror e
        (h.noted 0 0 hn hnolook (by simp [Served.isAccepted, hafter]))
    | ok a =>
      exact hok a
        (h.noted 0 1 hn hnolook (by simp [Served.isAccepted, hr, hafter]))

end Settles

/-! ### Plans that only look around -/

theorem idle_of_request?_eq_none {q : Ask} (hq : q.request? = none) (hm : ∀ m, q ≠ .count m) :
    q.Idle :=
  ⟨calls_of_request?_eq_none hq, hm⟩

theorem idle_connect (secret : Secret) : (connect secret).Asks Ask.Idle :=
  ⟨idle_of_request?_eq_none rfl nofun, fun _ => trivial⟩

theorem idle_enter (secret : Secret) : (enter secret).Asks Ask.Idle := by
  unfold enter
  split
  · trivial
  · exact (idle_connect secret).bindOk fun _ => trivial

theorem idle_walk (s : Search) :
    ∀ (n : Nat) (token : Option String) (found : Discovered), (s.walk n token found).Asks Ask.Idle
  | 0, _, _ => trivial
  | n + 1, token, found => by
    refine ⟨⟨calls_of_request?_eq_some rfl ⟨rfl, rfl⟩, nofun⟩, fun a => ?_⟩
    match a with
    | none => trivial
    | some (.error e) => trivial
    | some (.ok page) =>
      dsimp only
      split
      · trivial
      · split
        · exact idle_walk s n _ _
        · refine ⟨idle_of_request?_eq_none rfl nofun, fun stop => ?_⟩
          cases stop <;> trivial

theorem idle_discover (n : Nat) (project zone : String) (tags : List String)
    (name : Option String) : (discover n project zone tags name).Asks Ask.Idle := by
  unfold discover
  split
  · trivial
  · exact idle_walk _ n _ _

theorem idle_describe (id : String) (secret : Secret) : (describe id secret).Asks Ask.Idle := by
  unfold describe
  split
  · trivial
  · refine (idle_connect secret).bindOk fun _ =>
      ⟨⟨calls_of_request?_eq_some rfl ⟨rfl, rfl⟩, nofun⟩, fun r => ?_⟩
    match r with
    | .error e => trivial
    | .ok i => trivial

/-! ### Lifecycle calls -/

/-- The end of a lifecycle call, if it came to one. -/
def ending? (call : LifecycleCall) (r : Option (Except MachineError α)) : Option Ending :=
  r.map fun r => (call, failure? r)

/-- **A call that is accounted for**: its end is counted if it comes to one, and nothing is left
open. -/
def Accounted (b : Backend σ) (cancelAt : Option Nat) (call : LifecycleCall)
    (p : Plan (Except MachineError α)) : Prop :=
  ∀ ⦃ended w⦄, Reconciled 0 0 ended w →
    Reconciled 0 0
      ((ending? call (b.recording.run cancelAt p w).result?).toList ++ ended)
      (b.recording.run cancelAt p w).state

theorem Settles.counted {p : Plan (Except MachineError α)} (hp : Settles b cancelAt 0 p)
    (call : LifecycleCall) : Accounted b cancelAt call (Lifecycle.counted call p) := by
  intro ended w h
  have hafter := hp h
  unfold Backend.run
  cases hrun : p.run (b.recording.handler cancelAt) w with
  | stuck w₁ =>
    rw [hrun] at hafter
    unfold Lifecycle.counted
    rw [Program.run_bind_of_stuck _ hrun]
    exact hafter
  | answered r w₁ =>
    rw [hrun] at hafter
    rw [run_counted_iff.mpr ⟨w₁, hrun, rfl⟩]
    exact hafter.finished call (failure? r)

theorem accounted_create (b : Backend σ) (cancelAt : Option Nat) (limits : Limits) (name : String)
    (spec : ProviderSpec) (secret : Secret) :
    Accounted b cancelAt .create (create limits name spec secret) := by
  refine Settles.counted (.bindOk (.of_idle (idle_enter secret)) fun project => ?_) _
  exact .change rfl (fun op => .finish limits _ op) fun e => .of_idle trivial

theorem accounted_delete (b : Backend σ) (cancelAt : Option Nat) (limits : Limits) (name : String)
    (spec : ProviderSpec) (secret : Secret) :
    Accounted b cancelAt .delete (delete limits name spec secret) := by
  refine Settles.counted (.bindOk (.of_idle (idle_enter secret)) fun project =>
    .bindOk (.of_idle (idle_discover _ _ _ _ _)) fun found => ?_) _
  dsimp only
  split
  · exact .of_idle trivial
  · refine .change rfl (fun op => .finish limits _ op) fun e => ?_
    -- a machine that has vanished leaves nothing to wait for
    dsimp only
    split <;> exact .of_idle trivial

theorem accounted_status (b : Backend σ) (cancelAt : Option Nat) (limits : Limits) (name : String)
    (spec : ProviderSpec) (secret : Secret) :
    Accounted b cancelAt .status (status limits name spec secret) := by
  refine Settles.counted (.bindOk (.of_idle (idle_enter secret)) fun project =>
    .bindOk (.of_idle (idle_discover _ _ _ _ _)) fun found => ?_) _
  split <;> exact .of_idle trivial

theorem accounted_list (b : Backend σ) (cancelAt : Option Nat) (limits : Limits)
    (spec : ProviderSpec) (secret : Secret) :
    Accounted b cancelAt .list (list limits spec secret) :=
  Settles.counted (.bindOk (.of_idle (idle_enter secret)) fun _ =>
    .of_idle (idle_discover _ _ _ _ _)) _

end Lifecycle

end GceMachines
