import GceMachines.Lifecycle.Clock

/-!
# Callers that share a backend

Several plans may run against one backend at the same time. Every caller has a clock of its own,
which moves while it waits, and the state of the backend is theirs together. Whoever has a turn
asks the next question of its plan, in the state that all turns so far have left; nothing is known
of the order of the turns.

* `Caller`, `Caller.turn`: a caller with what is left of its plan, and its turn.
* `Crowd`, `Crowd.run`: callers with a state together, and their turns after a schedule.
* `Crowd.run_alone`: a caller that nobody joins runs as its plan does.
-/

namespace GceMachines

variable {σ τ α : Type}

/-- The same moment, in another state. -/
def World.within (w : World σ) (s : τ) : World τ := ⟨w.now, s, w.contacts, w.measures⟩

@[simp] theorem World.within_state (w : World σ) : w.within w.state = w := rfl

@[simp] theorem World.state_within (w : World σ) (s : τ) : (w.within s).state = s := rfl

@[simp] theorem World.now_within (w : World σ) (s : τ) : (w.within s).now = w.now := rfl

@[simp] theorem World.within_within {υ : Type} (w : World σ) (s : τ) (s' : υ) :
    (w.within s).within s' = w.within s' := rfl

/-- **A caller**: how it reaches the backend and when it is cancelled, what is left of its plan, and
the moment at which it is. -/
structure Caller (σ α : Type) where
  backend : Backend σ
  cancelAt : Option Nat
  plan : Plan α
  moment : World Unit

/-- **A turn** of a caller: the next question of its plan is answered. A question that is never
answered is the last one. -/
def Caller.turn (p : Caller σ α) (s : σ) : Caller σ α × σ :=
  match p.plan with
  | .done _ => (p, s)
  | .unfinished => (p, s)
  | .ask q next =>
    match p.backend.handler p.cancelAt q (p.moment.within s) with
    | .answered a w => ({ p with plan := next a, moment := w.within () }, w.state)
    | .stuck w => ({ p with plan := .unfinished, moment := w.within () }, w.state)

theorem Caller.state_turn (p : Caller σ α) (s : σ) :
    (p.turn s).2 = s ∨ ∃ q next, p.plan = .ask q next ∧
      (p.turn s).2 = (p.backend.handler p.cancelAt q (p.moment.within s)).state.state := by
  unfold turn
  split
  · exact .inl rfl
  · exact .inl rfl
  · next q next hp =>
    refine .inr ⟨q, next, hp, ?_⟩
    cases p.backend.handler p.cancelAt q (p.moment.within s) <;> rfl

theorem Caller.backend_turn (p : Caller σ α) (s : σ) :
    (p.turn s).1.backend = p.backend ∧ (p.turn s).1.cancelAt = p.cancelAt := by
  unfold turn
  split
  · exact ⟨rfl, rfl⟩
  · exact ⟨rfl, rfl⟩
  · split <;> exact ⟨rfl, rfl⟩

/-- **A crowd**: callers with a state together. -/
structure Crowd (σ α : Type) where
  state : σ
  callers : List (Caller σ α)

namespace Crowd

/-- A turn of one of the callers, if there is such a caller. -/
def turn (c : Crowd σ α) (i : Nat) : Crowd σ α :=
  match c.callers[i]? with
  | none => c
  | some p => ⟨(p.turn c.state).2, c.callers.set i (p.turn c.state).1⟩

/-- **The turns of a schedule**, one after another. -/
def run (c : Crowd σ α) (schedule : List Nat) : Crowd σ α := schedule.foldl turn c

/-- **A caller that nobody joins** runs as its plan does. -/
theorem run_alone {b : Backend σ} {cancelAt : Option Nat} {p : Plan α} {a : α} {w w' : World σ}
    (h : b.run cancelAt p w = .answered a w') :
    ∃ n, run ⟨w.state, [⟨b, cancelAt, p, w.within ()⟩]⟩ (List.replicate n 0) =
      ⟨w'.state, [⟨b, cancelAt, .done a, w'.within ()⟩]⟩ := by
  unfold Backend.run at h
  induction p generalizing w with
  | done a =>
    cases h
    exact ⟨0, rfl⟩
  | unfinished => cases h
  | ask q next ih =>
    rw [Program.run] at h
    cases hq : b.handler cancelAt q w with
    | stuck w₁ =>
      rw [hq] at h
      cases h
    | answered r w₁ =>
      rw [hq] at h
      obtain ⟨n, hn⟩ := ih r h
      refine ⟨n + 1, ?_⟩
      have hturn : turn ⟨w.state, [⟨b, cancelAt, .ask q next, w.within ()⟩]⟩ 0 =
          ⟨w₁.state, [⟨b, cancelAt, next r, w₁.within ()⟩]⟩ := by
        simp [turn, Caller.turn, hq]
      rw [List.replicate_succ, run, List.foldl_cons, hturn]
      exact hn

end Crowd

end GceMachines
