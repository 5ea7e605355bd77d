import GceMachines.Program

/-!
# Runs of programs

How the run of a sequence is put together from the runs of its parts, and two facts about a
program that hold whatever the answers are: what kind of questions it asks (`Asks`) and what kind
of values it ends with (`Ends`), failures among them (`Fails`). They are read off the tree, are
closed under sequence, and say something about every run.

* `run_bind_eq_answered`, `run_bindOk_eq_answered`: a sequence answers through its parts.
* `Asks.leads`: a run leads from state to state through questions of the program only.
* `Leads.keeps`: what the answers to such questions keep is kept.
* `Ends.of_run`: what all ends of a program have in common, the value of a run has.
-/

namespace GceMachines.Program

variable {Q : Type} {A : Q → Type} {α β ε σ : Type} {h : Handler A σ} {s s' s'' : σ}

/-! ### Sequences -/

theorem run_bind_of_answered {p : Program A α} {a : α} (f : α → Program A β)
    (hp : p.run h s = .answered a s') : (p.bind f).run h s = (f a).run h s' := by
  rw [run_bind, hp]

theorem run_bind_of_stuck {p : Program A α} (f : α → Program A β)
    (hp : p.run h s = .stuck s') : (p.bind f).run h s = .stuck s' := by
  rw [run_bind, hp]

theorem run_bind_eq_answered {p : Program A α} {f : α → Program A β} {b : β} :
    (p.bind f).run h s = .answered b s'' ↔
      ∃ a s', p.run h s = .answered a s' ∧ (f a).run h s' = .answered b s'' := by
  rw [run_bind]
  constructor
  · intro hb
    cases hp : p.run h s with
    | answered a s' => rw [hp] at hb; exact ⟨a, s', rfl, hb⟩
    | stuck s' => rw [hp] at hb; cases hb
  · rintro ⟨a, s', hp, hb⟩
    rw [hp]
    exact hb

theorem run_ask_of_answered {q : Q} {a : A q} (next : A q → Program A α)
    (hq : h q s = .answered a s') : (ask q next).run h s = (next a).run h s' := by
  rw [run, hq]

theorem run_ask_of_stuck {q : Q} (next : A q → Program A α) (hq : h q s = .stuck s') :
    (ask q next).run h s = .stuck s' := by
  rw [run, hq]

theorem run_bindOk_of_ok {p : Program A (Except ε α)} {a : α}
    (f : α → Program A (Except ε β)) (hp : p.run h s = .answered (.ok a) s') :
    (p.bindOk f).run h s = (f a).run h s' :=
  run_bind_of_answered _ hp

theorem run_bindOk_of_error {p : Program A (Except ε α)} {e : ε}
    (f : α → Program A (Except ε β)) (hp : p.run h s = .answered (.error e) s') :
    (p.bindOk f).run h s = .answered (.error e) s' :=
  run_bind_of_answered _ hp

theorem run_bindOk_of_stuck {p : Program A (Except ε α)} (f : α → Program A (Except ε β))
    (hp : p.run h s = .stuck s') : (p.bindOk f).run h s = .stuck s' :=
  run_bind_of_stuck _ hp

theorem run_bindOk_eq_ok {p : Program A (Except ε α)} {f : α → Program A (Except ε β)} {b : β} :
    (p.bindOk f).run h s = .answered (.ok b) s'' ↔
      ∃ a s', p.run h s = .answered (.ok a) s' ∧ (f a).run h s' = .answered (.ok b) s'' := by
  unfold bindOk
  rw [run_bind_eq_answered]
  constructor
  · rintro ⟨_ | a, s', hp, hb⟩
    · simp [run] at hb
    · exact ⟨a, s', hp, hb⟩
  · rintro ⟨a, s', hp, hb⟩
    exact ⟨.ok a, s', hp, hb⟩

theorem run_bindOk_eq_error {p : Program A (Except ε α)} {f : α → Program A (Except ε β)}
    {e : ε} :
    (p.bindOk f).run h s = .answered (.error e) s'' ↔
      p.run h s = .answered (.error e) s'' ∨
      ∃ a s', p.run h s = .answered (.ok a) s' ∧ (f a).run h s' = .answered (.error e) s'' := by
  unfold bindOk
  rw [run_bind_eq_answered]
  constructor
  · rintro ⟨_ | a, s', hp, hb⟩
    · simp only [run, Outcome.answered.injEq, Except.error.injEq] at hb
      obtain ⟨rfl, rfl⟩ := hb
      exact .inl hp
    · exact .inr ⟨a, s', hp, hb⟩
  · rintro (hp | ⟨a, s', hp, hb⟩)
    · exact ⟨.error e, s'', hp, rfl⟩
    · exact ⟨.ok a, s', hp, hb⟩

theorem run_bindOk_eq_answered {p : Program A (Except ε α)} {f : α → Program A (Except ε β)}
    {r : Except ε β} :
    (p.bindOk f).run h s = .answered r s'' ↔
      (∃ e, r = .error e ∧ p.run h s = .answered (.error e) s'') ∨
      ∃ a s', p.run h s = .answered (.ok a) s' ∧ (f a).run h s' = .answered r s'' := by
  cases r with
  | ok b =>
    rw [run_bindOk_eq_ok]
    simp
  | error e =>
    rw [run_bindOk_eq_error]
    simp

theorem run_bindOk_done {p : Program A (Except ε α)} (b : β) {r : Except ε β} :
    (p.bindOk fun _ => done (.ok b)).run h s = .answered r s'' ↔
      ∃ r', p.run h s = .answered r' s'' ∧ r = r'.map fun _ => b := by
  rw [run_bindOk_eq_answered]
  constructor
  · rintro (⟨e, rfl, hp⟩ | ⟨a, s', hp, hd⟩)
    · exact ⟨.error e, hp, rfl⟩
    · cases hd
      exact ⟨.ok a, hp, rfl⟩
  · rintro ⟨_ | a, hp, rfl⟩
    · exact .inl ⟨_, rfl, hp⟩
    · exact .inr ⟨a, s'', hp, rfl⟩

/-! ### From state to state -/

/-- One state leads to another through questions of some kind. -/
inductive Leads (h : Handler A σ) (P : Q → Prop) : σ → σ → Prop
  | refl {s : σ} : Leads h P s s
  | step {q : Q} {s s' : σ} (hq : P q) (hs : Leads h P (h q s).state s') : Leads h P s s'

namespace Leads

variable {P : Q → Prop}

theorem one {q : Q} {a : A q} (hq : P q) (ha : h q s = .answered a s') : Leads h P s s' := by
  refine .step hq ?_
  rw [ha]
  exact .refl

theorem trans (h₁ : Leads h P s s') (h₂ : Leads h P s' s'') : Leads h P s s'' := by
  induction h₁ with
  | refl => exact h₂
  | step hq _ ih => exact .step hq (ih h₂)

theorem keeps {I : σ → Prop} (hI : ∀ q s, P q → I s → I (h q s).state) (hl : Leads h P s s') :
    I s → I s' := by
  induction hl with
  | refl => exact id
  | step hq _ ih => exact fun hs => ih (hI _ _ hq hs)

end Leads

/-! ### The questions of a program -/

/-- Every question of a program, whatever the answers, is of some kind. -/
def Asks (P : Q → Prop) : Program A α → Prop
  | done _ => True
  | ask q next => P q ∧ ∀ a, (next a).Asks P
  | unfinished => True

namespace Asks

variable {P : Q → Prop}

theorem of_forall (hP : ∀ q, P q) : ∀ p : Program A α, p.Asks P
  | done _ => trivial
  | ask q next => ⟨hP q, fun a => of_forall hP (next a)⟩
  | unfinished => trivial

theorem mono {P' : Q → Prop} (hP : ∀ q, P q → P' q) : ∀ {p : Program A α}, p.Asks P → p.Asks P'
  | done _, _ => trivial
  | ask _ _, hp => ⟨hP _ hp.1, fun a => mono hP (hp.2 a)⟩
  | unfinished, _ => trivial

theorem bind {f : α → Program A β} (hf : ∀ a, (f a).Asks P) :
    ∀ {p : Program A α}, p.Asks P → (p.bind f).Asks P
  | done a, _ => hf a
  | ask _ _, hp => ⟨hp.1, fun a => bind hf (hp.2 a)⟩
  | unfinished, _ => trivial

theorem bindOk {p : Program A (Except ε α)} {f : α → Program A (Except ε β)}
    (hf : ∀ a, (f a).Asks P) (hp : p.Asks P) : (p.bindOk f).Asks P := by
  refine bind (fun r => ?_) hp
  cases r with
  | ok a => exact hf a
  | error e => trivial

/-- **A run leads along the questions of the program**, and along no others. -/
theorem leads : ∀ {p : Program A α}, p.Asks P → ∀ s, Leads h P s (p.run h s).state
  | done _, _, _ => .refl
  | unfinished, _, _ => .refl
  | ask q next, hp, s => by
    refine .step hp.1 ?_
    cases ha : h q s with
    | answered a s' =>
      rw [run_ask_of_answered next ha]
      exact leads (hp.2 a) s'
    | stuck s' =>
      rw [run_ask_of_stuck next ha]
      exact .refl

theorem leads_of_ask {q : Q} {next : A q → Program A α} (hn : ∀ a, (next a).Asks P) (s : σ) :
    Leads h P (h q s).state ((ask q next).run h s).state := by
  cases ha : h q s with
  | answered a s' =>
    rw [run_ask_of_answered next ha]
    exact (hn a).leads s'
  | stuck s' =>
    rw [run_ask_of_stuck next ha]
    exact .refl

/-- **The two ways through a sequence**: on to the second part, or to an end before it. -/
theorem bindOk_cases {p : Program A (Except ε α)} (hp : p.Asks P)
    (f : α → Program A (Except ε β)) (s : σ) :
    (∃ a s', p.run h s = .answered (.ok a) s' ∧ Leads h P s s' ∧
      (p.bindOk f).run h s = (f a).run h s') ∨
    Leads h P s ((p.bindOk f).run h s).state := by
  have hl : Leads h P s (p.run h s).state := hp.leads s
  cases hr : p.run h s with
  | stuck s' =>
    rw [hr] at hl
    rw [run_bindOk_of_stuck f hr]
    exact .inr hl
  | answered r s' =>
    rw [hr] at hl
    cases r with
    | ok a => exact .inl ⟨a, s', rfl, hl, run_bindOk_of_ok f hr⟩
    | error e =>
      rw [run_bindOk_of_error f hr]
      exact .inr hl

end Asks

/-! ### The ends of a program -/

/-- Every value that a program may end with is of some kind. -/
def Ends (P : α → Prop) : Program A α → Prop
  | done a => P a
  | ask _ next => ∀ a, (next a).Ends P
  | unfinished => True

namespace Ends

variable {P : α → Prop} {R : β → Prop}

theorem anyhow : ∀ {p : Program A α}, p.Ends fun _ => True
  | done _ => trivial
  | ask _ _ => fun _ => anyhow
  | unfinished => trivial

theorem bind {f : α → Program A β} (hf : ∀ a, P a → (f a).Ends R) :
    ∀ {p : Program A α}, p.Ends P → (p.bind f).Ends R
  | done a, hp => hf a hp
  | ask _ _, hp => fun a => bind hf (hp a)
  | unfinished, _ => trivial

theorem of_run : ∀ {p : Program A α}, p.Ends P → ∀ {s a}, p.run h s = .answered a s' → P a
  | done a, hp, _, _, hr => by
    simp only [run, Outcome.answered.injEq] at hr
    obtain ⟨rfl, -⟩ := hr
    exact hp
  | unfinished, _, _, _, hr => by simp [run] at hr
  | ask q next, hp, s, _, hr => by
    cases ha : h q s with
    | answered a s' =>
      rw [run_ask_of_answered next ha] at hr
      exact of_run (hp a) hr
    | stuck s' =>
      rw [run_ask_of_stuck next ha] at hr
      cases hr

end Ends

/-- Every failure of a program is of some kind. -/
def Fails (E : ε → Prop) (p : Program A (Except ε α)) : Prop :=
  p.Ends fun r => ∀ e, r = .error e → E e

namespace Fails

variable {E : ε → Prop}

theorem done_ok (a : α) : (done (.ok a) : Program A (Except ε α)).Fails E := nofun

theorem done_error {e : ε} (he : E e) : (done (.error e) : Program A (Except ε α)).Fails E := by
  rintro _ ⟨⟩
  exact he

theorem bindOk {p : Program A (Except ε α)} {f : α → Program A (Except ε β)} (hp : p.Fails E)
    (hf : ∀ a, (f a).Fails E) : (p.bindOk f).Fails E := by
  refine Ends.bind (fun r hr => ?_) hp
  cases r with
  | ok a => exact hf a
  | error e => exact done_error (hr e rfl)

theorem of_run {p : Program A (Except ε α)} (hp : p.Fails E) {e : ε}
    (hr : p.run h s = .answered (.error e) s') : E e :=
  Ends.of_run hp hr e rfl

end Fails

end GceMachines.Program
