import GceMachines.Proofs.Crowd.Journal

/-!
# Plans among other callers

What a caller comes to depends on what the others do between its turns. A plan is secure if it comes
to its end, within a number of turns and with what it is to establish, whatever calls of some kind
the others make in the meantime. Callers whose plans are all secure, each against the calls that
the others may make, may have their turns in any order.

* `Around`, `Meanwhile`: the calls that are recorded while one caller goes on with its plan.
* `Secure`: a plan that comes to its end among others; `Secure.bind`: plans in sequence.
* `Crowd.calling`, `Crowd.result?`: calls that begin together, and what they come to.
* `Crowd.run_atService`, `Crowd.calling_atService`: without the journal, callers come to the same.
* `Secured`: a crowd of secure plans.
* `Secured.turn`, `Secured.run`: one turn and a schedule; `Secured.settled`: what it comes to.
-/

namespace GceMachines

namespace Journal

/-- **What is recorded around a caller**: calls that the others may make, and calls of its own. -/
def Around (P : Nat → Request → Prop) (i : Nat) (R : Request → Prop) : Journal → Journal → Prop :=
  Recorded fun k r => if k = i then R r else P k r

/-- What is recorded between two turns of a caller. -/
abbrev Meanwhile (P : Nat → Request → Prop) (i : Nat) : Journal → Journal → Prop :=
  Around P i fun _ => False

variable {P : Nat → Request → Prop} {i : Nat} {R : Request → Prop} {j j' : Journal} {r : Request}

theorem Meanwhile.around (h : Meanwhile P i j j') : Around P i R j j' := by
  refine h.mono fun k r hr => ?_
  split at hr
  · exact hr.elim
  · next hk =>
    rw [if_neg hk]
    exact hr

theorem Around.own (hr : r.Reads) (j : Journal) : Around P i Request.Reads j (j.record i r) :=
  Recorded.one (by rw [if_pos rfl]; exact hr) j

theorem Meanwhile.other {k : Nat} (hk : k ≠ i) (hr : P k r) (j : Journal) :
    Meanwhile P i j (j.record k r) :=
  Recorded.one (by rw [if_neg hk]; exact hr) j

end Journal

open Journal (Meanwhile Around)

variable {P : Nat → Request → Prop} {i : Nat} {α β : Type} {j : Journal}

/-! ### Secure plans -/

/-- **A plan is secure** for a caller: whatever the others do before each of its turns, within `n`
turns it is done, and then `Q` holds of its end whatever the others do afterwards. -/
def Secure (P : Nat → Request → Prop) (i : Nat) (Q : α → World Journal → Prop) :
    Plan α → (n : Nat) → World Journal → Prop
  | .done a, _, w => ∀ j, Meanwhile P i w.state j → Q a (w.within j)
  | .ask _ _, 0, _ => False
  | .ask q next, n + 1, w => ∀ j, Meanwhile P i w.state j → ∃ a w',
      (Journal.backend i none).handler none q (w.within j) = .answered a w' ∧
        Secure P i Q (next a) n w'
  | .unfinished, _, _ => False

namespace Secure

variable {Q Q' : α → World Journal → Prop} {R : β → World Journal → Prop} {p : Plan α}
  {n n' : Nat} {w : World Journal}

theorem meanwhile (h : Secure P i Q p n w) (hj : Meanwhile P i w.state j) :
    Secure P i Q p n (w.within j) := by
  cases p with
  | done a => exact fun j' hj' => h j' (hj.trans hj')
  | unfinished => exact h
  | ask q next =>
    cases n with
    | zero => exact h
    | succ n => exact fun j' hj' => h j' (hj.trans hj')

theorem mono (h : Secure P i Q p n w) (hn : n ≤ n') : Secure P i Q p n' w := by
  induction p generalizing n n' w with
  | done a => exact h
  | unfinished => exact h
  | ask q next ih =>
    cases n with
    | zero => exact h.elim
    | succ n =>
      obtain ⟨n', rfl⟩ : ∃ k, n' = k + 1 := ⟨n' - 1, by omega⟩
      intro j hj
      obtain ⟨a, w', ha, hs⟩ := h j hj
      exact ⟨a, w', ha, ih a hs (Nat.le_of_succ_le_succ hn)⟩

theorem imp (hQ : ∀ a w, Q a w → Q' a w) (h : Secure P i Q p n w) : Secure P i Q' p n w := by
  induction p generalizing n w with
  | done a => exact fun j hj => hQ a _ (h j hj)
  | unfinished => exact h
  | ask q next ih =>
    cases n with
    | zero => exact h
    | succ n =>
      intro j hj
      obtain ⟨a, w', ha, hs⟩ := h j hj
      exact ⟨a, w', ha, ih a hs⟩

/-- **Plans in sequence.** -/
theorem bind {f : α → Plan β} (hp : Secure P i Q p n w)
    (hf : ∀ a w', Q a w' → Secure P i R (f a) n' w') : Secure P i R (p.bind f) (n + n') w := by
  induction p generalizing n w with
  | done a => exact (hf a w (hp w.state (.refl _))).mono (Nat.le_add_left _ _)
  | unfinished => exact hp
  | ask q next ih =>
    cases n with
    | zero => exact hp.elim
    | succ n =>
      rw [Nat.succ_add]
      intro j hj
      obtain ⟨a, w', ha, hs⟩ := hp j hj
      exact ⟨a, w', ha, ih a hs⟩

theorem bindOk {Q : α → World Journal → Prop} {p : Plan (Except MachineError α)}
    {R : Except MachineError β → World Journal → Prop}
    {f : α → Plan (Except MachineError β)}
    (hp : Secure P i (fun r w' => ∃ a, r = .ok a ∧ Q a w') p n w)
    (hf : ∀ a w', Q a w' → Secure P i R (f a) n' w') : Secure P i R (p.bindOk f) (n + n') w := by
  refine hp.bind fun r w' => ?_
  rintro ⟨a, rfl, ha⟩
  exact hf a w' ha

end Secure

/-! ### Secure crowds -/

/-- **A crowd of secure plans**: every caller reaches the service through the journal, is never
cancelled, makes calls of its own kind only, and has turns left with which it comes to its end. -/
def Secured (P : Nat → Request → Prop) (Q : Nat → α → Journal → Prop) (turns : Nat → Nat)
    (c : Crowd Journal α) : Prop :=
  ∀ i p, c.callers[i]? = some p →
    p.backend = Journal.backend i none ∧ p.cancelAt = none ∧ p.plan.Calls (P i) ∧
      Secure P i (fun a w => Q i a w.state) p.plan (turns i) (p.moment.within c.state)

/-- **Calls that begin together** at a service, each at an instant of its own clock. -/
def Crowd.calling (m : InMemory) (calls : List (Nat × Plan α)) : Crowd Journal α :=
  ⟨⟨m, []⟩, calls.mapIdx fun i call =>
    ⟨Journal.backend i none, none, call.2, ⟨call.1, (), [], []⟩⟩⟩

/-- What a caller came to, if its plan is done. -/
def Crowd.result? {σ : Type} (c : Crowd σ α) (i : Nat) : Option α :=
  match (c.callers[i]?).map Caller.plan with
  | some (.done a) => some a
  | _ => none

theorem Crowd.length_run (c : Crowd Journal α) (schedule : List Nat) :
    (c.run schedule).callers.length = c.callers.length := by
  induction schedule generalizing c with
  | nil => rfl
  | cons k schedule ih =>
    refine (ih _).trans ?_
    unfold Crowd.turn
    split
    · rfl
    · exact List.length_set

/-! ### Without the journal -/

/-- A caller of the service itself. -/
def Caller.atService (refusal : Option ServiceError) (p : Caller Journal α) : Caller InMemory α :=
  ⟨InMemory.backend refusal, p.cancelAt, p.plan, p.moment⟩

/-- The same callers at the service itself. -/
def Crowd.atService (refusals : Nat → Option ServiceError) (c : Crowd Journal α) :
    Crowd InMemory α :=
  ⟨c.state.service, c.callers.mapIdx fun i p => p.atService (refusals i)⟩

/-- The callers reach the service through the journal, with credentials that it may refuse. -/
def Crowd.JournaledAs (refusals : Nat → Option ServiceError) (c : Crowd Journal α) : Prop :=
  ∀ i p, c.callers[i]? = some p → ∃ k, p.backend = Journal.backend k (refusals i)

variable {refusals : Nat → Option ServiceError} {c : Crowd Journal α}

theorem Caller.turn_atService {refusal : Option ServiceError} {p : Caller Journal α} {k : Nat}
    (hb : p.backend = Journal.backend k refusal) (j : Journal) :
    (p.atService refusal).turn j.service =
      ((p.turn j).1.atService refusal, (p.turn j).2.service) := by
  obtain ⟨b, cancelAt, plan, moment⟩ := p
  dsimp only at hb
  subst hb
  cases plan with
  | done a => rfl
  | unfinished => rfl
  | ask q next =>
    have h := Journal.handler_service k refusal cancelAt q (moment.within j)
    rw [World.within_within, World.state_within] at h
    unfold atService turn
    dsimp only
    rw [← h]
    cases (Journal.backend k refusal).handler cancelAt q (moment.within j) <;> rfl

theorem Crowd.JournaledAs.turn (hc : c.JournaledAs refusals) (k : Nat) :
    (c.turn k).JournaledAs refusals := by
  intro i p hp
  unfold Crowd.turn at hp
  split at hp
  · exact hc i p hp
  · next p₀ hp₀ =>
    dsimp only at hp
    rw [List.getElem?_set] at hp
    split at hp
    · next hk =>
      subst hk
      split at hp
      · cases hp
        rw [(p₀.backend_turn c.state).1]
        exact hc _ p₀ hp₀
      · cases hp
    · exact hc i p hp

theorem Crowd.turn_atService (hc : c.JournaledAs refusals) (i : Nat) :
    (c.atService refusals).turn i = (c.turn i).atService refusals := by
  unfold turn
  rw [show (c.atService refusals).callers[i]? =
    (c.callers[i]?).map (Caller.atService (refusals i)) from List.getElem?_mapIdx]
  cases hp : c.callers[i]? with
  | none => rfl
  | some p =>
    obtain ⟨k, hb⟩ := hc i p hp
    simp only [Option.map_some, atService, p.turn_atService hb c.state, List.mapIdx_set]

/-- **The journal changes nothing**, whatever the schedule. -/
theorem Crowd.run_atService (hc : c.JournaledAs refusals) (schedule : List Nat) :
    (c.atService refusals).run schedule = (c.run schedule).atService refusals := by
  induction schedule generalizing c with
  | nil => rfl
  | cons i schedule ih =>
    unfold run at ih ⊢
    rw [List.foldl_cons, List.foldl_cons, turn_atService hc]
    exact ih (hc.turn i)

theorem Crowd.result?_atService (refusals : Nat → Option ServiceError) (c : Crowd Journal α)
    (i : Nat) : (c.atService refusals).result? i = c.result? i := by
  unfold result? atService
  rw [List.getElem?_mapIdx, Option.map_map]
  rfl

/-- **Calls that begin together** come to the same at the service itself. -/
theorem Crowd.calling_atService (m : InMemory) (calls : List (Nat × Plan α))
    (schedule : List Nat) :
    ((Crowd.calling m calls).atService fun _ => none).run schedule =
      ((Crowd.calling m calls).run schedule).atService fun _ => none := by
  refine Crowd.run_atService (fun i p hp => ⟨i, ?_⟩) schedule
  unfold Crowd.calling at hp
  dsimp only at hp
  rw [List.getElem?_mapIdx] at hp
  obtain ⟨call, -, rfl⟩ := Option.map_eq_some_iff.mp hp
  rfl

namespace Secured

variable {Q : Nat → α → Journal → Prop} {turns : Nat → Nat}

/-- **A turn of a secure plan**: it is done, or its next question is answered and it goes on. -/
theorem turn_caller {p : Caller Journal α} {Q : α → World Journal → Prop} {n : Nat}
    (hb : p.backend = Journal.backend i none) (hc : p.cancelAt = none) (hcalls : p.plan.Calls (P i))
    (h : Secure P i Q p.plan n (p.moment.within j)) :
    (p.turn j).1.plan.Calls (P i) ∧
      Secure P i Q (p.turn j).1.plan (n - 1) ((p.turn j).1.moment.within (p.turn j).2) ∧
      ((p.turn j).2 = j ∨ ∃ r, P i r ∧ (p.turn j).2 = j.record i r) := by
  obtain ⟨b, cancelAt, plan, moment⟩ := p
  dsimp only at hb hc hcalls h
  subst hb hc
  cases plan with
  | done a => exact ⟨hcalls, h, .inl rfl⟩
  | unfinished => exact h.elim
  | ask q next =>
    cases n with
    | zero => exact h.elim
    | succ n =>
      obtain ⟨a, w', ha, hs⟩ := h j (.refl _)
      have hstate := Journal.state_of_handler i none none q (moment.within j)
      rw [World.within_within] at ha
      rw [ha] at hstate
      have hturn : (⟨Journal.backend i none, none, .ask q next, moment⟩ : Caller Journal α).turn j =
          (⟨Journal.backend i none, none, next a, w'.within ()⟩, w'.state) := by
        simp only [Caller.turn, ha]
      rw [hturn]
      refine ⟨hcalls.2 a, hs, ?_⟩
      rcases hstate with hsame | ⟨r, hr, hrec⟩
      · exact .inl hsame
      · exact .inr ⟨r, hcalls.1 r hr, hrec⟩

/-- **One turn** leaves a crowd secure, with one turn less to go for the caller that had it. -/
theorem turn (h : Secured P Q turns c) (k : Nat) :
    Secured P Q (fun i => if i = k then turns i - 1 else turns i) (c.turn k) ∧
      Journal.Recorded P c.state (c.turn k).state := by
  cases hk : c.callers[k]? with
  | none =>
    have hturn : c.turn k = c := by simp only [Crowd.turn, hk]
    rw [hturn]
    refine ⟨fun i p hp => ?_, .refl _⟩
    have hne : i ≠ k := by
      rintro rfl
      rw [hk] at hp
      cases hp
    dsimp only
    rw [if_neg hne]
    exact h i p hp
  | some p =>
    obtain ⟨hb, hc, hcalls, hs⟩ := h k p hk
    obtain ⟨hcalls', hs', hstate⟩ := turn_caller hb hc hcalls hs
    have hturn : c.turn k = ⟨(p.turn c.state).2, c.callers.set k (p.turn c.state).1⟩ := by
      simp only [Crowd.turn, hk]
    rw [hturn]
    constructor
    · intro i p' hp'
      by_cases hi : i = k
      · subst hi
        rw [List.getElem?_set_self (List.getElem?_eq_some_iff.mp hk).1] at hp'
        cases hp'
        dsimp only
        rw [if_pos rfl]
        obtain ⟨hb', hc'⟩ := p.backend_turn c.state
        exact ⟨hb'.trans hb, hc'.trans hc, hcalls', hs'⟩
      · rw [List.getElem?_set_ne (Ne.symm hi)] at hp'
        dsimp only
        rw [if_neg hi]
        obtain ⟨hb', hc', hcalls'', hs''⟩ := h i p' hp'
        refine ⟨hb', hc', hcalls'', ?_⟩
        -- for the others it was nothing, or one of the calls that they are secure against
        rcases hstate with hsame | ⟨r, hr, hrec⟩
        · exact hsame.symm ▸ hs''
        · exact hs''.meanwhile (hrec ▸ Meanwhile.other (Ne.symm hi) hr c.state)
    · rcases hstate with hsame | ⟨r, hr, hrec⟩
      · exact hsame.symm ▸ .refl _
      · exact hrec ▸ .one hr c.state

/-- **A schedule** leaves a crowd secure. -/
theorem run (h : Secured P Q turns c) (schedule : List Nat) :
    Secured P Q (fun i => turns i - schedule.count i) (c.run schedule) ∧
      Journal.Recorded P c.state (c.run schedule).state := by
  induction schedule generalizing turns c with
  | nil => exact ⟨h, .refl _⟩
  | cons k schedule ih =>
    obtain ⟨hturn, hrec⟩ := h.turn k
    obtain ⟨hrun, hrec'⟩ := ih hturn
    refine ⟨?_, hrec.trans hrec'⟩
    have hturns : (fun i => (if i = k then turns i - 1 else turns i) - schedule.count i) =
        fun i => turns i - (k :: schedule).count i := by
      funext i
      rw [List.count_cons]
      by_cases hi : i = k
      · subst hi
        simp only [if_true, beq_self_eq_true]
        omega
      · simp [hi, Ne.symm hi]
    exact hturns ▸ hrun

theorem calling {m : InMemory} {calls : List (Nat × Plan α)}
    (h : ∀ i call, calls[i]? = some call → call.2.Calls (P i) ∧
      Secure P i (fun a w => Q i a w.state) call.2 (turns i) ⟨call.1, ⟨m, []⟩, [], []⟩) :
    Secured P Q turns (Crowd.calling m calls) := by
  intro i p hp
  unfold Crowd.calling at hp
  dsimp only at hp
  rw [List.getElem?_mapIdx] at hp
  obtain ⟨call, hcall, rfl⟩ := Option.map_eq_some_iff.mp hp
  obtain ⟨hcalls, hs⟩ := h i call hcall
  exact ⟨rfl, rfl, hcalls, hs⟩

theorem exists_result (h : Secured P Q turns c) {i : Nat} (hi : i < c.callers.length)
    (ht : turns i = 0) : ∃ a, c.result? i = some a := by
  obtain ⟨-, -, -, hs⟩ := h i _ (List.getElem?_eq_getElem hi)
  rw [ht] at hs
  unfold Crowd.result?
  rw [List.getElem?_eq_getElem hi, Option.map_some]
  revert hs
  cases (c.callers[i]).plan with
  | done a => exact fun _ => ⟨a, rfl⟩
  | unfinished => exact False.elim
  | ask q next => exact False.elim

theorem of_result (h : Secured P Q turns c) {i : Nat} {a : α} (ha : c.result? i = some a) :
    Q i a c.state := by
  unfold Crowd.result? at ha
  cases hp : c.callers[i]? with
  | none =>
    rw [hp] at ha
    cases ha
  | some p =>
    obtain ⟨-, -, -, hs⟩ := h i p hp
    rw [hp, Option.map_some] at ha
    cases hplan : p.plan with
    | ask q next =>
      rw [hplan] at ha
      cases ha
    | unfinished =>
      rw [hplan] at ha
      cases ha
    | done a' =>
      rw [hplan] at ha hs
      cases ha
      exact hs c.state (.refl _)

/-- **What a crowd of secure plans comes to**, whatever the schedule: a caller that has had its
turns is done, and whoever is done has established what its plan was to establish. -/
theorem settled (h : Secured P Q turns c) (schedule : List Nat) :
    (∀ i < c.callers.length, turns i ≤ schedule.count i →
      ∃ a, (c.run schedule).result? i = some a) ∧
    (∀ i a, (c.run schedule).result? i = some a → Q i a (c.run schedule).state) ∧
    Journal.Recorded P c.state (c.run schedule).state := by
  obtain ⟨hrun, hrec⟩ := h.run schedule
  refine ⟨fun i hi ht => ?_, fun i a ha => hrun.of_result ha, hrec⟩
  exact hrun.exists_result (by rw [Crowd.length_run]; exact hi) (Nat.sub_eq_zero_of_le ht)

end Secured

end GceMachines
