import GceMachines.Proofs.Lifecycle.Looks

/-!
# How a wait for an operation ends

Three things compete to end a wait: the cancellation, the deadline, and the first reply that ends
it on the schedule of looks. The first of them does, at its own instant, and nothing is asked
after it. Replies that leave the operation running never end a wait.

* `WaitEnds`: the three ends of a wait, each with its instant.
* `Awaiting.comesTo`: from any look on, the wait comes to one of them.
* `awaitOperation_outcome`: which one it is, by comparing the three instants.
-/

namespace GceMachines

theorem World.advance_of_le {σ : Type} {w : World σ} {t : Nat} (h : t ≤ w.now) :
    w.advance t = w := by
  unfold World.advance
  rw [Nat.max_eq_left h]

namespace Lifecycle

variable {script : LookScript} {cancelAt : Option Nat} {deadline : Nat} {w : World Nat}

/-! ### One question of the wait -/

theorem isCancelled_backend :
    script.backend.isCancelled cancelAt w = true ↔ ∃ c ∈ cancelAt, c ≤ w.now := by
  simp [Backend.isCancelled, LookScript.backend, Option.any_eq_true]

theorem not_isCancelled (hc : ∀ c ∈ cancelAt, w.now < c) :
    ¬ script.backend.isCancelled cancelAt w = true := by
  rw [isCancelled_backend]
  rintro ⟨c, hmem, hle⟩
  exact Nat.not_le_of_lt (hc c hmem) hle

theorem handler_sleep (planned : Nat) (hc : ∀ c ∈ cancelAt, w.now < c) :
    script.backend.handler cancelAt (.sleep planned deadline) w =
      Backend.firstOf w cancelAt (some deadline) (some (planned, ())) := by
  simp only [Backend.handler]
  rw [if_neg (not_isCancelled hc)]
  cases Backend.firstOf w cancelAt (some deadline) (some (planned, ())) <;> rfl

/-- Sleeping ends with the first of the cancellation, the deadline and the instant planned. -/
theorem sleep_cases (script : LookScript) (cancelAt : Option Nat) (planned : Nat)
    (hd : w.now ≤ deadline) :
    (∃ c ∈ cancelAt, c ≤ deadline ∧ c ≤ max planned w.now ∧
      script.backend.handler cancelAt (.sleep planned deadline) w =
        .answered .cancelled (w.advance c)) ∨
    ((∀ c ∈ cancelAt, deadline < c) ∧ deadline ≤ max planned w.now ∧
      script.backend.handler cancelAt (.sleep planned deadline) w =
        .answered .late (w.advance deadline)) ∨
    ((∀ c ∈ cancelAt, max planned w.now < c) ∧ max planned w.now < deadline ∧
      script.backend.handler cancelAt (.sleep planned deadline) w =
        .answered (.came ()) (w.advance planned)) := by
  by_cases hnow : ∃ c ∈ cancelAt, c ≤ w.now
  · obtain ⟨c, hmem, hle⟩ := hnow
    refine .inl ⟨c, hmem, by omega, by omega, ?_⟩
    rw [World.advance_of_le hle]
    simp only [Backend.handler]
    rw [if_pos (isCancelled_backend.mpr ⟨c, hmem, hle⟩)]
  · have hpast : ∀ c ∈ cancelAt, w.now < c := fun c hmem =>
      Nat.lt_of_not_le fun hle => hnow ⟨c, hmem, hle⟩
    rw [handler_sleep planned hpast]
    rcases Backend.firstOf_cases w cancelAt (some deadline) (some (planned, ())) with
      ⟨c, hmem, hcd, hcp, h⟩ | ⟨d, ⟨⟩, hdc, hdp, h⟩ | ⟨x, ⟨⟩, hpc, hpd, h⟩ | ⟨h, -⟩
    · have h₁ := hcd deadline rfl
      have h₂ := hcp _ rfl
      exact .inl ⟨c, hmem, by omega, by omega, h⟩
    · have h₁ := hdp _ rfl
      refine .inr (.inl ⟨fun c hmem => ?_, by omega, h⟩)
      have := hdc c hmem; omega
    · have h₁ := hpd deadline rfl
      refine .inr (.inr ⟨fun c hmem => ?_, by omega, h⟩)
      have := hpc c hmem; omega
    · cases h

/-- The world in which a look has begun. -/
def looking (o : Awaited) (w : World Nat) : World Nat :=
  { w with
    state := w.state + 1
    contacts := (w.now, .call (.operation o.project o.zone o.name)) :: w.contacts }

/-- The reply to a look that begins at some instant, if there ever is one, with its own instant. -/
def LookScript.comes (script : LookScript) (begins n : Nat) :
    Option (Nat × Except ServiceError Operation) :=
  match script n with
  | .after ms r => some (begins + ms, r)
  | .never => none

theorem LookScript.comes_eq_some {begins n : Nat} {x : Nat × Except ServiceError Operation} :
    script.comes begins n = some x ↔ ∃ ms, script n = .after ms x.2 ∧ begins + ms = x.1 := by
  unfold LookScript.comes
  cases script n with
  | never => simp
  | after ms r =>
    constructor
    · rintro ⟨⟩
      exact ⟨ms, rfl, rfl⟩
    · rintro ⟨ms', ⟨⟩, hx⟩
      exact congrArg (fun t => some (t, x.2)) hx

theorem handler_bounded (o : Awaited) (hc : ∀ c ∈ cancelAt, w.now < c) (hd : w.now < deadline) :
    script.backend.handler cancelAt (.bounded (.operation o.project o.zone o.name) deadline) w =
      Backend.firstOf (looking o w) cancelAt (some deadline) (script.comes w.now w.state) := by
  have hd' : ¬ (some deadline).any (fun d => decide (d ≤ w.now)) = true := by
    simp only [Option.any_some, decide_eq_true_eq]; omega
  simp only [Backend.handler, Backend.waitFor]
  rw [if_neg (not_isCancelled hc), if_neg hd']
  simp only [LookScript.backend, looking, LookScript.comes]
  cases script w.state <;> rfl

theorem bounded_cases (script : LookScript) (o : Awaited) (hc : ∀ c ∈ cancelAt, w.now < c)
    (hd : w.now < deadline) :
    (∃ c ∈ cancelAt, c ≤ deadline ∧ (∀ ms r, script w.state = .after ms r → c ≤ w.now + ms) ∧
      script.backend.handler cancelAt (.bounded (.operation o.project o.zone o.name) deadline) w =
        .answered .cancelled ((looking o w).advance c)) ∨
    ((∀ c ∈ cancelAt, deadline < c) ∧
      (∀ ms r, script w.state = .after ms r → deadline ≤ w.now + ms) ∧
      script.backend.handler cancelAt (.bounded (.operation o.project o.zone o.name) deadline) w =
        .answered .late ((looking o w).advance deadline)) ∨
    ∃ ms r, script w.state = .after ms r ∧ (∀ c ∈ cancelAt, w.now + ms < c) ∧
      w.now + ms < deadline ∧
      script.backend.handler cancelAt (.bounded (.operation o.project o.zone o.name) deadline) w =
        .answered (.came r) ((looking o w).advance (w.now + ms)) := by
  have hnow : (looking o w).now = w.now := rfl
  have hcomes : ∀ ms r, script w.state = .after ms r →
      (w.now + ms, r) ∈ script.comes w.now w.state := fun ms r h =>
    LookScript.comes_eq_some.mpr ⟨ms, h, rfl⟩
  rw [handler_bounded o hc hd]
  rcases Backend.firstOf_cases (looking o w) cancelAt (some deadline)
      (script.comes w.now w.state) with
    ⟨c, hmem, hcd, hcx, h⟩ | ⟨d, ⟨⟩, hdc, hdx, h⟩ | ⟨⟨t, r⟩, hx, hxc, hxd, h⟩ | ⟨h, -⟩
  · have := hc c hmem
    have h₁ := hcd deadline rfl
    refine .inl ⟨c, hmem, by omega, fun ms r hr => ?_, h⟩
    have h₂ := hcx _ (hcomes ms r hr)
    dsimp only at h₂; omega
  · refine .inr (.inl ⟨fun c hmem => ?_, fun ms r hr => ?_, h⟩)
    · have h₁ := hdc c hmem
      omega
    · have h₂ := hdx _ (hcomes ms r hr)
      dsimp only at h₂; omega
  · obtain ⟨ms, hr, rfl⟩ := LookScript.comes_eq_some.mp hx
    have h₁ := hxd deadline rfl
    dsimp only at h₁
    refine .inr (.inr ⟨ms, r, hr, fun c hmem => ?_, by omega, h⟩)
    have h₂ := hxc c hmem
    dsimp only at h₂; omega
  · cases h

/-! ### The looks so far -/

/-- The calls of the first looks of the schedule. -/
def scheduledCalls (o : Awaited) (interval first : Nat) (script : LookScript) (n : Nat) :
    List (Nat × Request) :=
  (List.range n).filterMap fun k =>
    (lookTime interval first script k).map fun l => (l.begins, .operation o.project o.zone o.name)

/-- **What was asked so far** are the first looks of the schedule, and none of them is to come. -/
structure OnSchedule (o : Awaited) (interval first : Nat) (script : LookScript)
    (w : World Nat) : Prop where
  calls : w.calls = scheduledCalls o interval first script w.state
  past : ∀ e ∈ w.calls, e.1 ≤ w.now

namespace OnSchedule

variable {o : Awaited} {interval first : Nat}

theorem start : OnSchedule o interval first script (.start 0) :=
  ⟨rfl, by simp [World.calls, World.start]⟩

theorem advance (h : OnSchedule o interval first script w) (t : Nat) :
    OnSchedule o interval first script (w.advance t) :=
  ⟨h.calls, fun e he => Nat.le_trans (h.past e he) (Nat.le_max_left _ _)⟩

theorem measure (h : OnSchedule o interval first script w) (m : Measure) :
    OnSchedule o interval first script (w.measure m) :=
  ⟨h.calls, h.past⟩

theorem looking (h : OnSchedule o interval first script w) {l : LookTime}
    (hl : lookTime interval first script w.state = some l) (hb : l.begins = w.now) :
    OnSchedule o interval first script (looking o w) := by
  have hcalls : (Lifecycle.looking o w).calls =
      w.calls ++ [(w.now, .operation o.project o.zone o.name)] :=
    World.calls_of_contacts_cons (k := .call (.operation o.project o.zone o.name)) rfl
  constructor
  · rw [hcalls, h.calls, ← hb]
    simp [Lifecycle.looking, scheduledCalls, List.range_succ, hl]
  · intro e he
    rw [hcalls, List.mem_append, List.mem_singleton] at he
    rcases he with he | rfl
    · exact h.past e he
    · exact Nat.le_refl _

end OnSchedule

/-! ### The whole wait -/

/-- **The three ends of a wait** for an operation, each with its instant. -/
inductive WaitEnds (name : String) (interval first timeoutMs deadline : Nat) (script : LookScript)
    (cancelAt : Option Nat) : Except MachineError Unit → Nat → Prop
  | cancelled {c : Nat} (hc : c ∈ cancelAt) (hd : c ≤ deadline)
      (hr : ∀ t r, EndsAt interval first script t r → c ≤ t) :
      WaitEnds name interval first timeoutMs deadline script cancelAt (.error (.cancelled name)) c
  | late (hc : ∀ c ∈ cancelAt, deadline < c)
      (hr : ∀ t r, EndsAt interval first script t r → deadline ≤ t) :
      WaitEnds name interval first timeoutMs deadline script cancelAt
        (.error (.timeout name timeoutMs)) deadline
  | replied {t : Nat} {r : Except ServiceError Operation} (h : EndsAt interval first script t r)
      (hc : ∀ c ∈ cancelAt, t < c) (hd : t < deadline) :
      WaitEnds name interval first timeoutMs deadline script cancelAt (verdict name r) t

namespace WaitEnds

variable {name : String} {interval first timeoutMs : Nat} {result : Except MachineError Unit}
  {n : Nat}

theorem of_cancelled
    (h : WaitEnds name interval first timeoutMs deadline script cancelAt result n) {c : Nat}
    (hc : c ∈ cancelAt) (hd : c ≤ deadline)
    (hr : ∀ t r, EndsAt interval first script t r → c ≤ t) :
    result = .error (.cancelled name) ∧ n = c := by
  cases h with
  | cancelled hc' => exact ⟨rfl, Option.mem_unique hc' hc⟩
  | late hc' =>
    have := hc' c hc
    omega
  | replied h hc' =>
    have := hc' c hc
    have := hr _ _ h
    omega

theorem of_late
    (h : WaitEnds name interval first timeoutMs deadline script cancelAt result n)
    (hc : ∀ c ∈ cancelAt, deadline < c)
    (hr : ∀ t r, EndsAt interval first script t r → deadline ≤ t) :
    result = .error (.timeout name timeoutMs) ∧ n = deadline := by
  cases h with
  | cancelled hc' =>
    have := hc _ hc'
    omega
  | late => exact ⟨rfl, rfl⟩
  | replied h =>
    have := hr _ _ h
    omega

theorem of_replied
    (h : WaitEnds name interval first timeoutMs deadline script cancelAt result n) {t : Nat}
    {r : Except ServiceError Operation} (hr : EndsAt interval first script t r)
    (hc : ∀ c ∈ cancelAt, t < c) (hd : t < deadline) :
    result = verdict name r ∧ n = t := by
  cases h with
  | cancelled hc' _ hr' =>
    have := hc _ hc'
    have := hr' _ _ hr
    omega
  | late _ hr' =>
    have := hr' _ _ hr
    omega
  | replied hr' =>
    obtain ⟨rfl, rfl⟩ := hr.unique hr'
    exact ⟨rfl, rfl⟩

theorem instant_of_pending
    (h : WaitEnds name interval first timeoutMs deadline script cancelAt result n)
    (hr : ∀ t r, EndsAt interval first script t r → n < t) : n = deadline ∨ n ∈ cancelAt := by
  cases h with
  | cancelled hc => exact .inr hc
  | late => exact .inl rfl
  | replied h =>
    have := hr _ _ h
    omega

end WaitEnds

/-- **A wait before its next look**, which is planned for `planned`: nothing has ended it so far. -/
structure Awaiting (o : Awaited) (cfg : PollConfig) (first deadline : Nat) (script : LookScript)
    (cancelAt : Option Nat) (planned : Nat) (w : World Nat) : Prop where
  next : lookTime cfg.intervalMs first script w.state = some ⟨planned, max planned w.now⟩
  notCancelled : ∀ c ∈ cancelAt, w.now ≤ c
  inTime : w.now ≤ deadline
  pending : ∀ k < w.state, ∀ x ∈ replyAt cfg.intervalMs first script k, endsWait x.2 = false
  onSchedule : OnSchedule o cfg.intervalMs first script w

/-- **A wait at the beginning of a look**, which was planned for `planned`. -/
structure AtLook (o : Awaited) (cfg : PollConfig) (first deadline : Nat) (script : LookScript)
    (cancelAt : Option Nat) (planned : Nat) (w : World Nat) : Prop where
  due : lookTime cfg.intervalMs first script w.state = some ⟨planned, w.now⟩
  notCancelled : ∀ c ∈ cancelAt, w.now < c
  inTime : w.now < deadline
  pending : ∀ k < w.state, ∀ x ∈ replyAt cfg.intervalMs first script k, endsWait x.2 = false
  onSchedule : OnSchedule o cfg.intervalMs first script w

/-- What a wait comes to: an end, with the looks made until then. -/
def ComesTo (o : Awaited) (cfg : PollConfig) (first deadline : Nat) (script : LookScript)
    (cancelAt : Option Nat) (out : Program.Outcome (World Nat) (Except MachineError Unit)) : Prop :=
  ∃ result w', out = .answered result w' ∧
    WaitEnds o.name cfg.intervalMs first cfg.timeoutMs deadline script cancelAt result w'.now ∧
    OnSchedule o cfg.intervalMs first script w'

section
variable {o : Awaited} {cfg : PollConfig} {first planned : Nat}

theorem Awaiting.atLook (h : Awaiting o cfg first deadline script cancelAt planned w)
    (hc : ∀ c ∈ cancelAt, max planned w.now < c) (hd : max planned w.now < deadline) :
    AtLook o cfg first deadline script cancelAt planned ((w.advance planned).measure .poll) := by
  have hnow : ((w.advance planned).measure .poll).now = max planned w.now := Nat.max_comm _ _
  refine ⟨?_, ?_, ?_, h.pending, ?_⟩
  · rw [hnow]
    exact h.next
  · rw [hnow]
    exact hc
  · rw [hnow]
    exact hd
  · exact (h.onSchedule.advance planned).measure _

theorem AtLook.awaiting (h : AtLook o cfg first deadline script cancelAt planned w) {ms : Nat}
    {r : Except ServiceError Operation} (hr : script w.state = .after ms r)
    (hend : endsWait r = false) (hc : ∀ c ∈ cancelAt, w.now + ms < c)
    (hd : w.now + ms < deadline) :
    Awaiting o cfg first deadline script cancelAt (nextTick cfg.intervalMs planned w.now)
      ((looking o w).advance (w.now + ms)) := by
  have hnow : ((looking o w).advance (w.now + ms)).now = w.now + ms :=
    Nat.max_eq_right (Nat.le_add_right _ _)
  have hreply : replyAt cfg.intervalMs first script w.state = some (w.now + ms, r) :=
    replyAt_eq_some.mpr ⟨_, ms, h.due, hr, rfl⟩
  refine ⟨?_, ?_, ?_, pending_succ h.pending hreply hend,
    (h.onSchedule.looking h.due rfl).advance (w.now + ms)⟩
  · rw [hnow]
    exact lookTime_succ h.due hr
  · rw [hnow]
    exact fun c hmem => Nat.le_of_lt (hc c hmem)
  · rw [hnow]
    exact Nat.le_of_lt hd

/-- **The sleep before a look** ends the wait, or it ends with the beginning of the look. -/
theorem Awaiting.sleep (h : Awaiting o cfg first deadline script cancelAt planned w) :
    ComesTo o cfg first deadline script cancelAt
      ((looks o cfg deadline planned).run (script.backend.handler cancelAt) w) ∨
    planned < deadline ∧ ∃ w', AtLook o cfg first deadline script cancelAt planned w' ∧
      (looks o cfg deadline planned).run (script.backend.handler cancelAt) w =
        (look o cfg deadline planned w'.now).run (script.backend.handler cancelAt) w' := by
  rcases sleep_cases script cancelAt planned h.inTime with
    ⟨c, hmem, hcd, hcp, hs⟩ | ⟨hcd, hdp, hs⟩ | ⟨hcp, hpd, hs⟩
  · have hnow : (w.advance c).now = c := Nat.max_eq_right (h.notCancelled c hmem)
    rw [looks]
    refine .inl ⟨_, w.advance c, Program.run_ask_of_answered _ hs, ?_, h.onSchedule.advance c⟩
    rw [hnow]
    refine .cancelled hmem hcd fun t r he => ?_
    obtain ⟨ms, -, -, hle⟩ := he.le_reply h.next h.pending
    dsimp only at hle
    omega
  · have hnow : (w.advance deadline).now = deadline := Nat.max_eq_right h.inTime
    rw [looks]
    refine .inl ⟨_, w.advance deadline, Program.run_ask_of_answered _ hs, ?_,
      h.onSchedule.advance deadline⟩
    rw [hnow]
    refine .late hcd fun t r he => ?_
    obtain ⟨ms, -, -, hle⟩ := he.le_reply h.next h.pending
    dsimp only at hle
    omega
  · have hlt : planned < deadline := by omega
    exact .inr ⟨hlt, _, h.atLook hcp hpd, run_looks_of_came hs⟩

/-- **A look** ends the wait with its reply or before it, or the wait goes on to a look that is
planned for later. -/
theorem AtLook.step (h : AtLook o cfg first deadline script cancelAt planned w) :
    ComesTo o cfg first deadline script cancelAt
      ((look o cfg deadline planned w.now).run (script.backend.handler cancelAt) w) ∨
    ∃ planned' w', planned < planned' ∧
      Awaiting o cfg first deadline script cancelAt planned' w' ∧
      (look o cfg deadline planned w.now).run (script.backend.handler cancelAt) w =
        (looks o cfg deadline planned').run (script.backend.handler cancelAt) w' := by
  have hw : OnSchedule o cfg.intervalMs first script (looking o w) := h.onSchedule.looking h.due rfl
  rcases bounded_cases script o h.notCancelled h.inTime with
    ⟨c, hmem, hcd, hcr, hs⟩ | ⟨hcd, hdr, hs⟩ | ⟨ms, r, hr, hrc, hrd, hs⟩
  · have hnow : ((looking o w).advance c).now = c :=
      Nat.max_eq_right (Nat.le_of_lt (h.notCancelled c hmem))
    refine .inl ⟨_, _, Program.run_ask_of_answered _ hs, ?_, hw.advance c⟩
    rw [hnow]
    refine .cancelled hmem hcd fun t r he => ?_
    obtain ⟨ms, r', hms, hle⟩ := he.le_reply h.due h.pending
    exact Nat.le_trans (hcr ms r' hms) hle
  · have hnow : ((looking o w).advance deadline).now = deadline :=
      Nat.max_eq_right (Nat.le_of_lt h.inTime)
    refine .inl ⟨_, _, Program.run_ask_of_answered _ hs, ?_, hw.advance deadline⟩
    rw [hnow]
    refine .late hcd fun t r he => ?_
    obtain ⟨ms, r', hms, hle⟩ := he.le_reply h.due h.pending
    exact Nat.le_trans (hdr ms r' hms) hle
  · have hnow : ((looking o w).advance (w.now + ms)).now = w.now + ms :=
      Nat.max_eq_right (Nat.le_add_right _ _)
    have hreply : replyAt cfg.intervalMs first script w.state = some (w.now + ms, r) :=
      replyAt_eq_some.mpr ⟨_, ms, h.due, hr, rfl⟩
    have hrun := run_look_of_answered cfg planned w.now hs
    cases hend : endsWait r with
    | true =>
      rw [show isEnd (.came r) = true from hend, if_pos rfl] at hrun
      refine .inl ⟨_, _, hrun, ?_, hw.advance (w.now + ms)⟩
      rw [hnow]
      exact .replied ⟨_, hreply, hend, h.pending⟩ hrc hrd
    | false =>
      rw [show isEnd (.came r) = false from hend, if_neg Bool.false_ne_true] at hrun
      exact .inr ⟨_, _, lt_nextTick cfg.interval_pos _ _, h.awaiting hr hend hrc hrd, hrun⟩

/-- **From any look on, a wait comes to one of its ends.** -/
theorem Awaiting.comesTo {planned : Nat} {w : World Nat}
    (h : Awaiting o cfg first deadline script cancelAt planned w) :
    ComesTo o cfg first deadline script cancelAt
      ((looks o cfg deadline planned).run (script.backend.handler cancelAt) w) := by
  rcases h.sleep with hend | ⟨hlt, w₁, hlook, hrun⟩
  · exact hend
  · rw [hrun]
    rcases hlook.step with hend | ⟨planned', w', hlt', hnext, hrun'⟩
    · exact hend
    · rw [hrun']
      exact hnext.comesTo
termination_by deadline - planned

theorem Awaiting.start (script : LookScript) (cancelAt : Option Nat) (o : Awaited)
    (cfg : PollConfig) :
    Awaiting o cfg cfg.intervalMs cfg.timeoutMs script cancelAt cfg.intervalMs (.start 0) where
  next := by rw [show max cfg.intervalMs (World.start 0).now = cfg.intervalMs from Nat.max_zero _]; rfl
  notCancelled := fun _ _ => Nat.zero_le _
  inTime := Nat.zero_le _
  pending := fun k hk => absurd hk (Nat.not_lt_zero k)
  onSchedule := .start

/-- **The wait from its beginning** comes to one of its ends. -/
theorem awaitOperation_comesTo (script : LookScript) (cancelAt : Option Nat) (o : Awaited)
    (cfg : PollConfig) :
    ComesTo o cfg cfg.intervalMs cfg.timeoutMs script cancelAt
      (script.backend.run cancelAt (awaitOperation o cfg) (.start 0)) := by
  obtain ⟨result, w, hr, he, hw⟩ := (Awaiting.start script cancelAt o cfg).comesTo
  have h0 : (World.start 0).now = 0 := rfl
  refine ⟨result, w.measure .operationWait, ?_, he, hw.measure _⟩
  unfold Backend.run awaitOperation
  rw [Backend.run_clock, h0, Nat.zero_add, Nat.zero_add, Program.run_bind_of_answered _ hr]
  rfl

/-! ### The comparison of the three instants -/

/-- **The outcome and the instant of a wait for an operation.** The wait begins at the instant zero
and always comes to an end. A cancellation no later than the deadline and the first reply that ends
the wait makes it cancelled, at the instant of the cancellation. A deadline before the cancellation
and no later than that reply makes it a timeout, at the deadline. A reply before both gives its
verdict, at the instant at which it comes. All calls made are the first looks of the schedule, none
of them after the end; and a wait that no reply has ended by then ends with the deadline or the
cancellation. -/
theorem awaitOperation_outcome (script : LookScript) (cancelAt : Option Nat) (o : Awaited)
    (cfg : PollConfig) :
    ∃ result w, script.backend.run cancelAt (awaitOperation o cfg) (.start 0) =
        .answered result w ∧
      (∀ c ∈ cancelAt, c ≤ cfg.timeoutMs →
        (∀ t r, EndsAt cfg.intervalMs cfg.intervalMs script t r → c ≤ t) →
        result = .error (.cancelled o.name) ∧ w.now = c) ∧
      ((∀ c ∈ cancelAt, cfg.timeoutMs < c) →
        (∀ t r, EndsAt cfg.intervalMs cfg.intervalMs script t r → cfg.timeoutMs ≤ t) →
        result = .error (.timeout o.name cfg.timeoutMs) ∧ w.now = cfg.timeoutMs) ∧
      (∀ t r, EndsAt cfg.intervalMs cfg.intervalMs script t r → t < cfg.timeoutMs →
        (∀ c ∈ cancelAt, t < c) → result = verdict o.name r ∧ w.now = t) ∧
      w.calls = scheduledCalls o cfg.intervalMs cfg.intervalMs script w.state ∧
      (∀ e ∈ w.calls, e.1 ≤ w.now) ∧
      ((∀ t r, EndsAt cfg.intervalMs cfg.intervalMs script t r → w.now < t) →
        w.now = cfg.timeoutMs ∨ w.now ∈ cancelAt) := by
  obtain ⟨result, w, hr, he, hw⟩ := awaitOperation_comesTo script cancelAt o cfg
  refine ⟨result, w, hr, ?_, ?_, ?_, hw.calls, hw.past, ?_⟩
  · intro c hc hd hle
    exact he.of_cancelled hc hd hle
  · intro hc hle
    exact he.of_late hc hle
  · intro t r h hd hc
    exact he.of_replied h hc hd
  · intro hlt
    exact he.instant_of_pending hlt

end

end Lifecycle

end GceMachines
