import GceMachines.Proofs.Crowd.Secure
import GceMachines.Proofs.InMemory.Quiet

/-!
# Waiting among other callers

On a service that nothing disturbs, an operation that was started stays started whatever the others
do, and looks of others only bring it nearer to its end. So the wait for it ends well before its
deadline, whoever has turns in between.

* `quiet_of_recorded`: nothing disturbs a service, whatever is called.
* `Underway`: an operation that was started for a change without errors.
* `secure_awaitOperation`: the wait for it.
-/

namespace GceMachines

open InMemory (Quiet operationName)
open Journal (Meanwhile Around Recorded)

variable {P : Nat → Request → Prop} {i k size : Nat} {name : String} {m : InMemory}
  {j j' : Journal} {w w' : World Journal}

/-! ### What stays as it is -/

theorem quiet_of_recorded (h : Recorded P j j') (hq : j.service.Quiet size k) :
    j'.service.Quiet size k :=
  h.keeps (I := fun j => j.service.Quiet size k) (fun _ r _ _ hq => hq.answer r) hq

/-- **An operation is under way**: it was started without errors, and is done after a number of
looks at most. -/
def InMemory.Underway (m : InMemory) (name : String) (looks : Nat) : Prop :=
  (∃ n < m.serial, name = operationName n) ∧ ∃ l ≤ looks, m.Runs name l none

theorem InMemory.Underway.of_unmade {m' : InMemory} {looks : Nat} (h : m.Underway name looks)
    (hu : m.Unmade m') : m'.Underway name looks := by
  obtain ⟨hname, l, hl, o, ho, hcoherent, rfl, hout⟩ := h
  rw [← hu.serial_eq] at hname
  refine ⟨hname, ?_⟩
  rcases hu.operations name with hs | hs
  · exact ⟨_, hl, o, hs.trans ho, hcoherent, rfl, hout⟩
  · refine ⟨o.look.looksLeft, ?_, o.look, by rw [hs, ho]; rfl, hcoherent.look, rfl, ?_⟩
    · rw [o.looksLeft_look]
      omega
    · rw [o.outcome_look, hout]

theorem InMemory.Underway.answer {looks : Nat} (h : m.Underway name looks) (r : Request) :
    (InMemory.answer r m).2.Underway name looks := by
  cases hc : m.change? r with
  | none => exact h.of_unmade (InMemory.unmade_of_change? hc)
  | some ch =>
    have hm := InMemory.made_of_change? hc
    obtain ⟨⟨n, hn, rfl⟩, l, hl, o, ho, hrest⟩ := h
    obtain ⟨o', -, -, -, hoperations⟩ := hm.started
    refine ⟨⟨n, by rw [hm.serial_eq]; omega, rfl⟩, l, hl, o, ?_, hrest⟩
    have hne : operationName n ≠ ch.operation := by
      rw [hm.operation_eq, Ne, InMemory.operationName_inj]
      omega
    rw [hoperations, SortedMap.get?_insert_of_ne hne]
    exact ho

theorem underway_of_recorded {looks : Nat} (h : Recorded P j j')
    (hu : j.service.Underway name looks) : j'.service.Underway name looks :=
  h.keeps (I := fun j => j.service.Underway name looks) (fun _ r _ _ hu => hu.answer r) hu

theorem Change.Made.underway {m' : InMemory} {ch : Change} (h : ch.Made m m')
    (hq : m.Quiet size k) : m'.Underway ch.operation k := by
  obtain ⟨o, hentry, hcoherent, hlooks, hoperations⟩ := h.started
  refine ⟨⟨m.serial, by rw [h.serial_eq]; omega, h.operation_eq⟩, k, Nat.le_refl k, o, ?_,
    hcoherent, hlooks.trans hq.looksUntilDone_eq, ?_⟩
  · rw [hoperations]
    exact SortedMap.get?_insert_self
  · rw [hentry.outcome_eq, h.outcome_eq, hq.nextOutcome]

/-! ### Looks -/

theorem Journal.state_of_uncalled {q : Ask} {a : q.Answer} (hq : q.request? = none)
    (h : (Journal.backend i none).handler none q w = .answered a w') : w'.state = w.state := by
  have hs := Journal.state_of_handler i none none q w
  rw [h] at hs
  rcases hs with hs | ⟨r, hr, -⟩
  · exact hs
  · rw [hq] at hr
    cases hr

/-- **A look** at an operation under way, before the deadline. -/
theorem exists_looked_at (project zone : String) {deadline looks : Nat}
    (hq : w.state.service.Quiet size k) (hu : w.state.service.Underway name looks)
    (hd : w.now < deadline) :
    ∃ op w', (Journal.backend i none).handler none (.bounded (.operation project zone name) deadline)
        w = .answered (.came (.ok op)) w' ∧ w'.now = w.now ∧
      w'.state = w.state.record i (.operation project zone name) ∧
      (op.isDone = true → op.error = none) ∧
      (op.isDone = false → 1 < looks ∧ w'.state.service.Underway name (looks - 1)) := by
  obtain ⟨hname, l, hl, hr⟩ := hu
  obtain ⟨op, m', hpoll⟩ := hq.poll_started hr
  rcases InMemory.poll_runs hr hpoll with ⟨e, -, he⟩ | ⟨op', he, hr', -, hdone, herror⟩
  · cases he
  cases he
  have hc : (Journal.backend i none).call (.operation project zone name) w.state =
      (.after 0 (.ok op), w.state.record i (.operation project zone name)) := by
    simp only [Journal.backend, InMemory.answer, hpoll]
    rfl
  obtain ⟨w', hw, hstate, hnow⟩ :=
    (Journal.backend i none).handler_bounded_of_after rfl (by simpa using hd) hc
  refine ⟨op, w', hw, by simpa using hnow, hstate, herror, fun hnot => ?_⟩
  have hlooks : ¬ l ≤ 1 := by
    rw [← hdone, hnot]
    exact Bool.false_ne_true
  have hserial := (InMemory.poll_unmade w.state.service name).serial_eq
  rw [hpoll] at hserial
  rw [hstate, Journal.service_record,
    show InMemory.answer (.operation project zone name) w.state.service = (some (.ok op), m') from
      hpoll]
  refine ⟨by omega, ?_, l - 1, by omega, hr'⟩
  rw [hserial]
  exact hname

/-! ### Waits -/

open Lifecycle

/-- What is around a wait that ends well: the calls of the others, and looks. -/
def Waited.Well (P : Nat → Request → Prop) (i : Nat) (j : Journal) (r : Except MachineError Unit)
    (w' : World Journal) : Prop :=
  r = .ok () ∧ Around P i Request.Reads j w'.state

theorem secure_look {Q : Except MachineError Unit → World Journal → Prop} {o : Awaited}
    {cfg : PollConfig} {deadline planned looks n : Nat} (hq : w.state.service.Quiet size k)
    (hu : w.state.service.Underway o.name looks) (hnow : w.now ≤ planned) (hlt : planned < deadline)
    (hrest : ∀ (op : Operation) (w' : World Journal), Around P i Request.Reads w.state w'.state →
      w'.now = planned → (op.isDone = true → op.error = none) →
      (op.isDone = false → 1 < looks ∧ w'.state.service.Underway o.name (looks - 1)) →
      Secure P i Q (if op.isDone then .done (outcome o.name op)
        else Lifecycle.looks o cfg deadline (planned + cfg.intervalMs)) n w') :
    Secure P i Q (Lifecycle.looks o cfg deadline planned) (n + 4) w := by
  rw [Lifecycle.looks]
  intro j₁ hj₁
  obtain ⟨w₁, hs, hw₁⟩ := (Journal.backend i none).handler_sleep_of_lt (w := w.within j₁)
    (fun _ => rfl) hnow hlt
  have hsame₁ : w₁.state = j₁ := Journal.state_of_uncalled rfl hs
  refine ⟨_, w₁, hs, ?_⟩
  simp only [dif_pos hlt]
  intro j₂ hj₂
  refine ⟨_, _, rfl, fun j₃ hj₃ => ⟨_, _, rfl, fun j₄ hj₄ => ?_⟩⟩
  -- the others had three turns in between, none of which disturbs the wait
  have hround : Meanwhile P i w.state j₄ :=
    (hj₁.trans (hsame₁ ▸ hj₂)).trans (hj₃.trans hj₄)
  obtain ⟨op, w₅, hl, hw₅, hsame₅, herror, hmore⟩ :=
    exists_looked_at (i := i) (w := ((w₁.within j₃).measure .poll).within j₄) o.project o.zone
      (quiet_of_recorded hround hq) (underway_of_recorded hround hu)
      (Nat.lt_of_le_of_lt (Nat.le_of_eq hw₁) hlt)
  have haround : Around P i Request.Reads w.state w₅.state := by
    rw [hsame₅]
    exact hround.around.trans (Around.own (r := .operation o.project o.zone o.name) rfl j₄)
  have hnext : nextTick cfg.intervalMs planned w₁.now = planned + cfg.intervalMs := by
    rw [hw₁, nextTick, if_pos (Nat.le_add_right _ _)]
  refine ⟨_, w₅, hl, ?_⟩
  dsimp only
  rw [show (w₁.within j₂).now = w₁.now from rfl, hnext]
  exact hrest op w₅ haround (hw₅.trans hw₁) herror hmore

/-- The last of several looks is planned for the same instant, counted from the first or the
second. -/
theorem lastLook_eq {looks : Nat} (h : 1 < looks) (planned interval : Nat) :
    planned + interval + (looks - 1 - 1) * interval = planned + (looks - 1) * interval := by
  obtain ⟨l, rfl⟩ : ∃ l, looks = l + 2 := ⟨looks - 2, by omega⟩
  have hl : (l + 1) * interval = l * interval + interval := Nat.succ_mul _ _
  show planned + interval + l * interval = planned + (l + 1) * interval
  omega

/-- **A wait for an operation under way**, from any look on. -/
theorem secure_looks {o : Awaited} {cfg : PollConfig} {deadline planned looks : Nat}
    (hq : w.state.service.Quiet size k) (hu : w.state.service.Underway o.name looks)
    (hnow : w.now ≤ planned) (hd : planned + (looks - 1) * cfg.intervalMs < deadline) :
    Secure P i (Waited.Well P i w.state) (Lifecycle.looks o cfg deadline planned)
      (4 * max 1 looks) w := by
  -- each look leaves at least one look less
  induction looks using Nat.strongRecOn generalizing planned w with
  | _ looks ih =>
    obtain ⟨n, hn⟩ : ∃ n, 4 * max 1 looks = n + 4 := ⟨4 * max 1 looks - 4, by omega⟩
    rw [hn]
    refine secure_look hq hu hnow (by omega) fun op w' haround hnow' herror hmore => ?_
    cases hdone : op.isDone with
    | true =>
      rw [if_pos rfl]
      intro j hj
      refine ⟨?_, haround.trans hj.around⟩
      unfold outcome
      rw [herror hdone]
    | false =>
      rw [if_neg Bool.false_ne_true]
      obtain ⟨hmany, hu'⟩ := hmore hdone
      have hlast := lastLook_eq hmany planned cfg.intervalMs
      have hrest : Secure P i (Waited.Well P i w'.state)
          (Lifecycle.looks o cfg deadline (planned + cfg.intervalMs)) (4 * max 1 (looks - 1)) w' :=
        ih (looks - 1) (by omega) (quiet_of_recorded haround hq) hu' (by omega) (by omega)
      refine (hrest.mono (by omega)).imp fun r w'' => ?_
      rintro ⟨rfl, hafter⟩
      exact ⟨rfl, haround.trans hafter⟩

/-- **A wait for an operation under way** ends well, if its last look is planned before the
timeout. -/
theorem secure_awaitOperation {o : Awaited} {cfg : PollConfig}
    (hq : w.state.service.Quiet size k) (hu : w.state.service.Underway o.name k)
    (hcfg : max 1 k * cfg.intervalMs < cfg.timeoutMs) :
    Secure P i (Waited.Well P i w.state) (awaitOperation o cfg) (4 * max 1 k + 2) w := by
  rw [show 4 * max 1 k + 2 = 4 * max 1 k + 1 + 1 by omega]
  intro j hj
  refine ⟨_, _, rfl, ?_⟩
  have hlooks : Secure P i (Waited.Well P i j) (Lifecycle.looks o cfg (w.now + cfg.timeoutMs)
      (w.now + cfg.intervalMs)) (4 * max 1 k) (w.within j) :=
    secure_looks (w := w.within j) (quiet_of_recorded hj hq) (underway_of_recorded hj hu)
      (Nat.le_add_right _ _) (by rw [InMemory.lookTime_eq]; exact Nat.add_lt_add_left hcfg _)
  refine hlooks.bind fun r w' => ?_
  rintro ⟨rfl, haround⟩ j₁ hj₁
  refine ⟨_, _, rfl, fun j₂ hj₂ => ⟨rfl, ?_⟩⟩
  exact hj.around.trans (haround.trans (Meanwhile.around (hj₁.trans hj₂)))

end GceMachines
