import GceMachines.Proofs.Program.Runs

/-!
# Runs that agree

Two handlers that answer every question alike, in states that belong together, run every program
alike. They need to do so only as long as nothing has happened that rules a run out, if that can
never be undone.

* `Outcome.Agree`: two ends that tell the same, in states that belong together.
* `run_agree`: the runs of handlers that answer alike.
* `run_agree_unless`: the same for runs that end in a state that is not ruled out.
-/

namespace GceMachines.Program

variable {Q : Type} {A : Q → Type} {α σ τ : Type} {R : σ → τ → Prop} {h : Handler A σ}
  {k : Handler A τ}

/-- **Two ends that tell the same**, in states that belong together. -/
inductive Outcome.Agree (R : σ → τ → Prop) : Outcome σ α → Outcome τ α → Prop
  | answered (a : α) {s : σ} {t : τ} (hr : R s t) : Agree R (.answered a s) (.answered a t)
  | stuck {s : σ} {t : τ} (hr : R s t) : Agree R (.stuck s) (.stuck t)

namespace Outcome.Agree

variable {o : Outcome σ α} {o' : Outcome τ α}

theorem state (ha : Agree R o o') : R o.state o'.state := by
  cases ha with
  | answered _ hr => exact hr
  | stuck hr => exact hr

theorem of_answered {a : α} {t : τ} (ha : Agree R o (.answered a t)) :
    ∃ s, o = .answered a s ∧ R s t := by
  cases ha with
  | answered _ hr => exact ⟨_, rfl, hr⟩

theorem of_stuck {t : τ} (ha : Agree R o (.stuck t)) : ∃ s, o = .stuck s ∧ R s t := by
  cases ha with
  | stuck hr => exact ⟨_, rfl, hr⟩

theorem mono {R' : σ → τ → Prop} (hR : ∀ s t, R s t → R' s t) (ha : Agree R o o') :
    Agree R' o o' := by
  cases ha with
  | answered a hr => exact .answered a (hR _ _ hr)
  | stuck hr => exact .stuck (hR _ _ hr)

end Outcome.Agree

/-- An end with what follows its answer. -/
def Outcome.andThen {β : Type} (o : Outcome σ α) (f : α → σ → Outcome σ β) : Outcome σ β :=
  match o with
  | .answered a s => f a s
  | .stuck s => .stuck s

theorem run_ask (q : Q) (next : A q → Program A α) (s : σ) :
    (ask q next).run h s = (h q s).andThen fun a => (next a).run h := by
  rw [run]
  cases h q s <;> rfl

theorem Outcome.Agree.andThen {β : Type} {o : Outcome σ α} {o' : Outcome τ α}
    {f : α → σ → Outcome σ β} {g : α → τ → Outcome τ β} (ha : Agree R o o')
    (hf : ∀ a s t, R s t → Agree R (f a s) (g a t)) : Agree R (o.andThen f) (o'.andThen g) := by
  cases ha with
  | answered a hr => exact hf a _ _ hr
  | stuck hr => exact .stuck hr

theorem run_keeps {B : τ → Prop} (hB : ∀ q t, B t → B (k q t).state) :
    ∀ (p : Program A α) (t : τ), B t → B (p.run k t).state
  | .done _, _, ht => ht
  | .unfinished, _, ht => ht
  | .ask q next, t, ht => by
    have hq := hB q t ht
    cases ha : k q t with
    | answered a t' =>
      rw [ha] at hq
      rw [run_ask_of_answered next ha]
      exact run_keeps hB (next a) t' hq
    | stuck t' =>
      rw [ha] at hq
      rw [run_ask_of_stuck next ha]
      exact hq

/-- **Runs agree unless they are ruled out**, if no answer undoes what rules them out. -/
theorem run_agree_unless {B : τ → Prop} (hB : ∀ q t, B t → B (k q t).state)
    (hq : ∀ q s t, R s t → ¬ B (k q t).state → Outcome.Agree R (h q s) (k q t)) :
    ∀ (p : Program A α) {s : σ} {t : τ}, R s t → ¬ B (p.run k t).state →
      Outcome.Agree R (p.run h s) (p.run k t)
  | .done a, _, _, hr, _ => .answered a hr
  | .unfinished, _, _, hr, _ => .stuck hr
  | .ask q next, s, t, hr, hend => by
    have hnot : ¬ B (k q t).state := by
      intro hbad
      refine hend ?_
      cases ha : k q t with
      | answered a t' =>
        rw [ha] at hbad
        rw [run_ask_of_answered next ha]
        exact run_keeps hB (next a) t' hbad
      | stuck t' =>
        rw [ha] at hbad
        rw [run_ask_of_stuck next ha]
        exact hbad
    have hsame := hq q s t hr hnot
    cases ha : k q t with
    | answered a t' =>
      rw [ha] at hsame
      obtain ⟨s', hs, hr'⟩ := hsame.of_answered
      rw [run_ask_of_answered next ha] at hend ⊢
      rw [run_ask_of_answered next hs]
      exact run_agree_unless hB hq (next a) hr' hend
    | stuck t' =>
      rw [ha] at hsame
      obtain ⟨s', hs, hr'⟩ := hsame.of_stuck
      rw [run_ask_of_stuck next ha, run_ask_of_stuck next hs]
      exact .stuck hr'

/-- **Handlers that answer alike run every program alike.** -/
theorem run_agree (hq : ∀ q s t, R s t → Outcome.Agree R (h q s) (k q t)) (p : Program A α) {s : σ}
    {t : τ} (hr : R s t) : Outcome.Agree R (p.run h s) (p.run k t) :=
  run_agree_unless (B := fun _ => False) (fun _ _ => id) (fun q s t hr _ => hq q s t hr) p hr id

end GceMachines.Program
