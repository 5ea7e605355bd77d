import GceMachines.Lifecycle.Clock

/-!
# What ends some waiting

Waiting ends with the first of a cancellation, a deadline and something that comes; at one and the
same instant they count in this order. An instant that has passed counts as now.

* `firstOf_eq_cancelled`, `firstOf_eq_late`, `firstOf_eq_came`: when each of them ends it.
* `firstOf_cases`: one of them does, unless none of them is ever to be.
-/

namespace GceMachines.Backend

variable {σ β : Type} {w : World σ} {cancelAt deadline : Option Nat} {comes : Option (Nat × β)}

theorem firstOf_eq_cancelled {c : Nat} (hc : c ∈ cancelAt)
    (hd : ∀ d ∈ deadline, max w.now c ≤ max w.now d)
    (hx : ∀ x ∈ comes, max w.now c ≤ max w.now x.1) :
    firstOf w cancelAt deadline comes = .answered .cancelled (w.advance c) := by
  obtain rfl := Option.mem_def.1 hc
  unfold firstOf
  dsimp only
  rw [Option.filter_some, if_pos]
  rw [Bool.and_eq_true, Option.all_eq_true, Option.all_eq_true]
  refine ⟨fun d hd' => by simpa using hd d hd', fun t ht => ?_⟩
  obtain ⟨x, hx', rfl⟩ := Option.map_eq_some_iff.1 ht
  simpa using hx x hx'

theorem firstOf_eq_late {d : Nat} (hd : d ∈ deadline)
    (hc : ∀ c ∈ cancelAt, max w.now d < max w.now c)
    (hx : ∀ x ∈ comes, max w.now d ≤ max w.now x.1) :
    firstOf w cancelAt deadline comes = .answered .late (w.advance d) := by
  obtain rfl := Option.mem_def.1 hd
  unfold firstOf
  dsimp only
  rw [Option.filter_eq_none_iff.2]
  · rw [Option.filter_some, if_pos]
    rw [Option.all_eq_true]
    intro t ht
    obtain ⟨x, hx', rfl⟩ := Option.map_eq_some_iff.1 ht
    simpa using hx x hx'
  · intro c h
    have := hc c h
    simp; omega

theorem firstOf_eq_came {x : Nat × β} (hx : x ∈ comes)
    (hc : ∀ c ∈ cancelAt, max w.now x.1 < max w.now c)
    (hd : ∀ d ∈ deadline, max w.now x.1 < max w.now d) :
    firstOf w cancelAt deadline comes = .answered (.came x.2) (w.advance x.1) := by
  obtain rfl := Option.mem_def.1 hx
  unfold firstOf
  dsimp only
  rw [Option.filter_eq_none_iff.2, Option.filter_eq_none_iff.2]
  · intro d h
    have := hd d h
    simp; omega
  · intro c h
    have := hc c h
    simp; omega

/-- **What ends some waiting**: the cancellation, the deadline, what comes, or nothing. -/
theorem firstOf_cases (w : World σ) (cancelAt deadline : Option Nat) (comes : Option (Nat × β)) :
    (∃ c ∈ cancelAt, (∀ d ∈ deadline, max w.now c ≤ max w.now d) ∧
      (∀ x ∈ comes, max w.now c ≤ max w.now x.1) ∧
      firstOf w cancelAt deadline comes = .answered .cancelled (w.advance c)) ∨
    (∃ d ∈ deadline, (∀ c ∈ cancelAt, max w.now d < max w.now c) ∧
      (∀ x ∈ comes, max w.now d ≤ max w.now x.1) ∧
      firstOf w cancelAt deadline comes = .answered .late (w.advance d)) ∨
    (∃ x ∈ comes, (∀ c ∈ cancelAt, max w.now x.1 < max w.now c) ∧
      (∀ d ∈ deadline, max w.now x.1 < max w.now d) ∧
      firstOf w cancelAt deadline comes = .answered (.came x.2) (w.advance x.1)) ∨
    deadline = none ∧ comes = none ∧ firstOf w cancelAt deadline comes = .stuck w := by
  by_cases h₁ : ∃ c ∈ cancelAt, (∀ d ∈ deadline, max w.now c ≤ max w.now d) ∧
      ∀ x ∈ comes, max w.now c ≤ max w.now x.1
  · obtain ⟨c, hc, hd, hx⟩ := h₁
    exact .inl ⟨c, hc, hd, hx, firstOf_eq_cancelled hc hd hx⟩
  by_cases h₂ : ∃ d ∈ deadline, ∀ x ∈ comes, max w.now d ≤ max w.now x.1
  · obtain ⟨d, hd, hx⟩ := h₂
    have hc : ∀ c ∈ cancelAt, max w.now d < max w.now c := by
      intro c hc
      refine Nat.lt_of_not_le fun hle => h₁ ⟨c, hc, fun d' hd' => ?_, fun x hx' => ?_⟩
      · rw [Option.mem_unique hd' hd]; exact hle
      · exact Nat.le_trans hle (hx x hx')
    exact .inr (.inl ⟨d, hd, hc, hx, firstOf_eq_late hd hc hx⟩)
  cases comes with
  | some x =>
    have hd : ∀ d ∈ deadline, max w.now x.1 < max w.now d := by
      intro d hd
      refine Nat.lt_of_not_le fun hle => h₂ ⟨d, hd, fun y hy => ?_⟩
      rw [← Option.some.inj hy]; exact hle
    have hc : ∀ c ∈ cancelAt, max w.now x.1 < max w.now c := by
      intro c hc
      refine Nat.lt_of_not_le fun hle => h₁ ⟨c, hc, fun d hd' => ?_, fun y hy => ?_⟩
      · exact Nat.le_trans hle (Nat.le_of_lt (hd d hd'))
      · rw [← Option.some.inj hy]; exact hle
    exact .inr (.inr (.inl ⟨x, rfl, hc, hd, firstOf_eq_came rfl hc hd⟩))
  | none =>
    cases deadline with
    | some d => exact absurd ⟨d, rfl, by simp⟩ h₂
    | none =>
      cases cancelAt with
      | some c => exact absurd ⟨c, rfl, by simp, by simp⟩ h₁
      | none => exact .inr (.inr (.inr ⟨rfl, rfl, rfl⟩))

theorem comes_of_firstOf {a : β} {w' : World σ}
    (h : firstOf w cancelAt deadline comes = .answered (.came a) w') :
    ∃ t, comes = some (t, a) ∧ w' = w.advance t := by
  rcases firstOf_cases w cancelAt deadline comes with
    ⟨c, -, -, -, hf⟩ | ⟨d, -, -, -, hf⟩ | ⟨x, hx, -, -, hf⟩ | ⟨-, -, hf⟩
  · cases hf.symm.trans h
  · cases hf.symm.trans h
  · cases hf.symm.trans h
    exact ⟨x.1, hx, rfl⟩
  · cases hf.symm.trans h

theorem inTime_of_firstOf {a : β} {w' : World σ}
    (h : firstOf w cancelAt deadline comes = .answered (.came a) w') :
    (∀ c ∈ cancelAt, w'.now < c) ∧ ∀ d ∈ deadline, w'.now < d := by
  rcases firstOf_cases w cancelAt deadline comes with
    ⟨c, -, -, -, hf⟩ | ⟨d, -, -, -, hf⟩ | ⟨x, -, hc, hd, hf⟩ | ⟨-, -, hf⟩
  · cases hf.symm.trans h
  · cases hf.symm.trans h
  · cases hf.symm.trans h
    have hnow : (w.advance x.1).now = max w.now x.1 := rfl
    rw [hnow]
    constructor
    · intro c hmem
      have := hc c hmem
      omega
    · intro d hmem
      have := hd d hmem
      omega
  · cases hf.symm.trans h

theorem state_firstOf (w : World σ) (cancelAt deadline : Option Nat) (comes : Option (Nat × β)) :
    (firstOf w cancelAt deadline comes).state = w ∨
      ∃ t, (firstOf w cancelAt deadline comes).state = w.advance t := by
  rcases firstOf_cases w cancelAt deadline comes with
    ⟨c, -, -, -, h⟩ | ⟨d, -, -, -, h⟩ | ⟨x, -, -, -, h⟩ | ⟨-, -, h⟩ <;> rw [h]
  · exact .inr ⟨c, rfl⟩
  · exact .inr ⟨d, rfl⟩
  · exact .inr ⟨x.1, rfl⟩
  · exact .inl rfl

end GceMachines.Backend
