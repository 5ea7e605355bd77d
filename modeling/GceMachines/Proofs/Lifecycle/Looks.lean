import GceMachines.Proofs.Lifecycle.Questions
import GceMachines.Proofs.Lifecycle.Schedule

/-!
# Waits that have ended

A wait for an operation sleeps until its next look, looks, and goes on as long as it is shown an
operation that still runs. It ends with a cancellation, with the deadline, or with a reply that is
of a kind to end it, and its result is known from that end alone. A reply that ends a wait has come
before the deadline and before the cancellation.

* `Looked`: a wait that has ended, look by look; `WaitEnded`: the same from its beginning.
* `Looked.inTime`: a reply that ends a wait comes in time.
* `run_looks_iff`, `run_awaitOperation_iff`: the runs of a wait are the waits that have ended.
-/

namespace GceMachines

namespace Backend

variable {σ : Type} {b : Backend σ} {cancelAt : Option Nat} {w w' : World σ}
  {planned deadline : Nat} {r : Request} {reply : Except ServiceError r.Reply}

theorem noticing_eq_came {out : Program.Outcome (World σ) (Waited Unit)}
    (h : b.noticing w out = .answered (.came ()) w') :
    ∃ w₁, out = .answered (.came ()) w₁ ∧ w'.now = w₁.now ∧ w'.contacts = w₁.contacts ∧
      w'.measures = w₁.measures ∧ b.interrupted w'.state = false := by
  cases out with
  | stuck w₁ => cases h
  | answered a w₁ =>
    simp only [noticing] at h
    cases hi : b.interrupted (b.wait (w₁.now - w.now) w₁.state) with
    | true =>
      rw [hi, if_pos rfl] at h
      cases h
    | false =>
      rw [hi, if_neg Bool.false_ne_true] at h
      cases h
      exact ⟨w₁, rfl, rfl, rfl, rfl, hi⟩

theorem sleep_eq_came
    (h : b.handler cancelAt (.sleep planned deadline) w = .answered (.came ()) w') :
    planned < deadline ∧ (∀ c ∈ cancelAt, w'.now < c) ∧ w'.now < deadline := by
  simp only [handler] at h
  split at h
  · cases h
  · obtain ⟨w₁, hf, hnow, -⟩ := noticing_eq_came h
    rw [hnow]
    obtain ⟨hc, hd⟩ := inTime_of_firstOf hf
    have hplanned : planned ≤ w₁.now := by
      rcases firstOf_cases w cancelAt (some deadline) (some (planned, ())) with
        ⟨c, -, -, -, hf'⟩ | ⟨d, -, -, -, hf'⟩ | ⟨x, ⟨⟩, -, -, hf'⟩ | ⟨-, -, hf'⟩
      · cases hf'.symm.trans hf
      · cases hf'.symm.trans hf
      · cases hf'.symm.trans hf
        exact Nat.le_max_right _ _
      · cases hf'.symm.trans hf
    have hlt := hd deadline rfl
    exact ⟨by omega, hc, hlt⟩

theorem waitFor_inTime {limit : Option Nat}
    (h : b.waitFor cancelAt limit r w = .answered (.came reply) w') :
    (∀ c ∈ cancelAt, w'.now < c) ∧ ∀ d ∈ limit, w'.now < d := by
  unfold waitFor at h
  split at h
  · cases h
  · split at h
    · cases h
    · cases hc : b.call r w.state with
      | mk response s =>
        rw [hc] at h
        cases response with
        | after ms result => exact inTime_of_firstOf h
        | never =>
          dsimp only at h
          split at h
          · cases h
          · obtain ⟨t, ht, -⟩ := comes_of_firstOf h
            cases ht

theorem bounded_eq_came
    (h : b.handler cancelAt (.bounded r deadline) w = .answered (.came reply) w') :
    (∀ c ∈ cancelAt, w'.now < c) ∧ w'.now < deadline := by
  have hwait : b.waitFor cancelAt (some deadline) r w = .answered (.came reply) w' := h
  obtain ⟨hc, hd⟩ := waitFor_inTime hwait
  exact ⟨hc, hd deadline rfl⟩

theorem abortable_eq_some
    (h : b.handler cancelAt (.abortable r) w = .answered (some reply) w') :
    ∀ c ∈ cancelAt, w'.now < c := by
  simp only [handler] at h
  cases hw : b.waitFor cancelAt none r w with
  | stuck w₁ =>
    rw [hw] at h
    cases h
  | answered a w₁ =>
    rw [hw] at h
    cases a with
    | came reply' =>
      cases h
      exact (waitFor_inTime hw).1
    | cancelled => cases h
    | late => cases h

end Backend

namespace Lifecycle

variable {σ : Type} {b : Backend σ} {cancelAt : Option Nat} {o : Awaited} {cfg : PollConfig}
  {deadline planned : Nat} {w w₁ w' : World σ} {how : Waited (Except ServiceError Operation)}
  {result : Except MachineError Unit}

/-! ### One look -/

/-- The look that begins at `now`, and what follows it. -/
def look (o : Awaited) (cfg : PollConfig) (deadline planned now : Nat) :
    Plan (Except MachineError Unit) :=
  .ask (.bounded (.operation o.project o.zone o.name) deadline) fun
    | .cancelled => Plan.fail (.cancelled o.name)
    | .late => Plan.fail (.timeout o.name cfg.timeoutMs)
    | .came (.error e) => Plan.fail e.toMachineError
    | .came (.ok op) =>
      if op.isDone then .done (outcome o.name op)
      else looks o cfg deadline (nextTick cfg.intervalMs planned now)

theorem run_looks_of_came
    (hs : b.handler cancelAt (.sleep planned deadline) w = .answered (.came ()) w') :
    (looks o cfg deadline planned).run (b.handler cancelAt) w =
      (look o cfg deadline planned w'.now).run (b.handler cancelAt) (w'.measure .poll) := by
  rw [looks, Program.run_ask_of_answered _ hs]
  simp only [dif_pos (Backend.sleep_eq_came hs).1]
  rw [Backend.run_clock, Backend.run_count]
  rfl

/-- What the end of a wait makes of it. -/
def meaning (o : Awaited) (cfg : PollConfig) :
    Waited (Except ServiceError Operation) → Except MachineError Unit
  | .cancelled => .error (.cancelled o.name)
  | .late => .error (.timeout o.name cfg.timeoutMs)
  | .came reply => verdict o.name reply

/-- Whether a wait ends with what comes of a look. -/
def isEnd : Waited (Except ServiceError Operation) → Bool
  | .came reply => endsWait reply
  | _ => true

theorem run_look_of_answered (cfg : PollConfig) (planned now : Nat)
    (hs : b.handler cancelAt (.bounded (.operation o.project o.zone o.name) deadline) w =
      .answered how w') :
    (look o cfg deadline planned now).run (b.handler cancelAt) w =
      if isEnd how then .answered (meaning o cfg how) w'
      else (looks o cfg deadline (nextTick cfg.intervalMs planned now)).run
        (b.handler cancelAt) w' := by
  rw [look, Program.run_ask_of_answered _ hs]
  match how with
  | .cancelled => rfl
  | .late => rfl
  | .came (.error e) => rfl
  | .came (.ok op) =>
    cases hd : op.isDone with
    | true => simp only [isEnd, endsWait, hd, if_true]; rfl
    | false => simp only [isEnd, endsWait, hd, Bool.false_eq_true, if_false]

/-! ### All looks -/

/-- **A wait that has ended**, from a look that is planned for `planned` on. -/
inductive Looked (b : Backend σ) (cancelAt : Option Nat) (o : Awaited) (cfg : PollConfig)
    (deadline : Nat) : Nat → World σ → Waited (Except ServiceError Operation) → World σ → Prop
  | cancelledAsleep {planned : Nat} {w w' : World σ}
      (hs : b.handler cancelAt (.sleep planned deadline) w = .answered .cancelled w') :
      Looked b cancelAt o cfg deadline planned w .cancelled w'
  | lateAsleep {planned : Nat} {w w' : World σ}
      (hs : b.handler cancelAt (.sleep planned deadline) w = .answered .late w') :
      Looked b cancelAt o cfg deadline planned w .late w'
  | last {planned : Nat} {w w₁ w' : World σ} {how : Waited (Except ServiceError Operation)}
      (hs : b.handler cancelAt (.sleep planned deadline) w = .answered (.came ()) w₁)
      (hl : b.handler cancelAt (.bounded (.operation o.project o.zone o.name) deadline)
        (w₁.measure .poll) = .answered how w')
      (he : isEnd how = true) :
      Looked b cancelAt o cfg deadline planned w how w'
  | more {planned : Nat} {w w₁ w₂ w' : World σ} {op : Operation}
      {how : Waited (Except ServiceError Operation)}
      (hs : b.handler cancelAt (.sleep planned deadline) w = .answered (.came ()) w₁)
      (hl : b.handler cancelAt (.bounded (.operation o.project o.zone o.name) deadline)
        (w₁.measure .poll) = .answered (.came (.ok op)) w₂)
      (hd : op.isDone = false)
      (hr : Looked b cancelAt o cfg deadline (nextTick cfg.intervalMs planned w₁.now) w₂ how w') :
      Looked b cancelAt o cfg deadline planned w how w'

/-- **A reply that ends a wait comes in time.** -/
theorem Looked.inTime {reply : Except ServiceError Operation}
    (h : Looked b cancelAt o cfg deadline planned w (.came reply) w') :
    endsWait reply = true ∧ (∀ c ∈ cancelAt, w'.now < c) ∧ w'.now < deadline := by
  generalize hhow : Waited.came reply = how at h
  induction h with
  | cancelledAsleep => cases hhow
  | lateAsleep => cases hhow
  | last hs hl he =>
    subst hhow
    exact ⟨he, Backend.bounded_eq_came hl⟩
  | more hs hl hd hr ih => exact ih hhow

theorem Looked.run_looks (h : Looked b cancelAt o cfg deadline planned w how w') :
    (looks o cfg deadline planned).run (b.handler cancelAt) w =
      .answered (meaning o cfg how) w' := by
  induction h with
  | cancelledAsleep hs =>
    rw [looks]
    exact Program.run_ask_of_answered _ hs
  | lateAsleep hs =>
    rw [looks]
    exact Program.run_ask_of_answered _ hs
  | last hs hl he => rw [run_looks_of_came hs, run_look_of_answered _ _ _ hl, if_pos he]
  | more hs hl hd hr ih =>
    have hnot : isEnd (.came (.ok _)) = false := hd
    rw [run_looks_of_came hs, run_look_of_answered _ _ _ hl, hnot, if_neg Bool.false_ne_true, ih]

theorem looked_of_run {planned : Nat} {w : World σ}
    (h : (looks o cfg deadline planned).run (b.handler cancelAt) w = .answered result w') :
    ∃ how, Looked b cancelAt o cfg deadline planned w how w' ∧ result = meaning o cfg how := by
  cases hs : b.handler cancelAt (.sleep planned deadline) w with
  | stuck w₁ =>
    rw [looks, Program.run_ask_of_stuck _ hs] at h
    cases h
  | answered slept w₁ =>
    match slept, hs with
    | .cancelled, hs =>
      rw [looks, Program.run_ask_of_answered _ hs] at h
      cases h
      exact ⟨.cancelled, .cancelledAsleep hs, rfl⟩
    | .late, hs =>
      rw [looks, Program.run_ask_of_answered _ hs] at h
      cases h
      exact ⟨.late, .lateAsleep hs, rfl⟩
    | .came (), hs =>
      have hlt := (Backend.sleep_eq_came hs).1
      rw [run_looks_of_came hs] at h
      cases hl : b.handler cancelAt (.bounded (.operation o.project o.zone o.name) deadline)
          (w₁.measure .poll) with
      | stuck w₂ =>
        rw [look, Program.run_ask_of_stuck _ hl] at h
        cases h
      | answered how w₂ =>
        rw [run_look_of_answered _ _ _ hl] at h
        cases he : isEnd how with
        | true =>
          rw [he, if_pos rfl] at h
          cases h
          exact ⟨how, .last hs hl he, rfl⟩
        | false =>
          rw [he, if_neg Bool.false_ne_true] at h
          obtain ⟨how', hr, hres⟩ := looked_of_run h
          match how, hl, he with
          | .came (.ok op), hl, he => exact ⟨how', .more hs hl he hr, hres⟩
termination_by deadline - planned
decreasing_by
  have := lt_nextTick cfg.interval_pos planned w₁.now
  omega

/-- **The runs of a wait** from any look on are the waits that have ended. -/
theorem run_looks_iff :
    (looks o cfg deadline planned).run (b.handler cancelAt) w = .answered result w' ↔
      ∃ how, Looked b cancelAt o cfg deadline planned w how w' ∧ result = meaning o cfg how := by
  constructor
  · exact looked_of_run
  · rintro ⟨how, h, rfl⟩
    exact h.run_looks

/-- **A wait that has ended**, from its beginning. -/
abbrev WaitEnded (b : Backend σ) (cancelAt : Option Nat) (o : Awaited) (cfg : PollConfig)
    (w : World σ) (how : Waited (Except ServiceError Operation)) (w' : World σ) : Prop :=
  Looked b cancelAt o cfg (w.now + cfg.timeoutMs) (w.now + cfg.intervalMs) w how w'

/-- **The runs of a wait** from its beginning. -/
theorem run_awaitOperation_iff :
    (awaitOperation o cfg).run (b.handler cancelAt) w = .answered result w' ↔
      ∃ how w₁, WaitEnded b cancelAt o cfg w how w₁ ∧ result = meaning o cfg how ∧
        w' = w₁.measure .operationWait := by
  unfold awaitOperation
  rw [Backend.run_clock, Program.run_bind_eq_answered]
  constructor
  · rintro ⟨r, w₁, hr, h⟩
    obtain ⟨how, hl, rfl⟩ := run_looks_iff.mp hr
    cases h
    exact ⟨how, w₁, hl, rfl, rfl⟩
  · rintro ⟨how, w₁, hl, rfl, rfl⟩
    exact ⟨_, w₁, run_looks_iff.mpr ⟨how, hl, rfl⟩, rfl⟩

end Lifecycle

end GceMachines
