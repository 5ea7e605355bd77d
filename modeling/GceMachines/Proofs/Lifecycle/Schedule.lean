import GceMachines.Lifecycle.Clock
import GceMachines.Lifecycle.Wait

/-!
# The schedule of looks

A service that answers the looks at an operation is given by a script: one response for each look
there may ever be. If nobody cancels the wait and its time is never up, the script alone decides
when each look is planned, when it begins and when it is answered. This is the schedule; a look
begins at the instant planned for it, or when the look before it is answered if that is later.

* `LookScript`, `LookScript.backend`: a script, and the service that follows it.
* `lookTime`, `replyAt`: when the looks begin and when they are answered.
* `EndsAt`: when the first reply comes that ends the wait.
* `replyAt_of_le`: an answered look comes behind answered looks, and no earlier than they do.
-/

namespace GceMachines.Lifecycle

/-- **Responses to looks**, one for each look there may ever be. -/
abbrev LookScript : Type := Nat → Response Operation

/-- The service that answers looks by a script. Its state is the number of looks so far; other
calls are never answered. -/
def LookScript.backend (script : LookScript) : Backend Nat where
  connect _ n := (.after 0 (.ok ()), n)
  call
    | .operation _ _ _, n => (script n, n + 1)
    | _, n => (.never, n)
  wait _ n := n
  interrupted _ := false

/-- The instants of a look. -/
structure LookTime where
  planned : Nat
  begins : Nat

/-- **When a look begins**, if all looks before it are answered. The first one is planned for the
instant `first`. -/
def lookTime (interval first : Nat) (script : LookScript) : Nat → Option LookTime
  | 0 => some ⟨first, first⟩
  | n + 1 =>
    match lookTime interval first script n, script n with
    | some l, .after ms _ =>
      let planned := nextTick interval l.planned l.begins
      some ⟨planned, max planned (l.begins + ms)⟩
    | _, _ => none

/-- **The reply to a look**, and when it comes. -/
def replyAt (interval first : Nat) (script : LookScript) (n : Nat) :
    Option (Nat × Except ServiceError Operation) :=
  match lookTime interval first script n, script n with
  | some l, .after ms reply => some (l.begins + ms, reply)
  | _, _ => none

/-- Whether a reply ends a wait: a failure does, and an operation that is done. -/
def endsWait : Except ServiceError Operation → Bool
  | .error _ => true
  | .ok op => op.isDone

/-- What a reply that ends a wait makes of it. -/
def verdict (name : String) : Except ServiceError Operation → Except MachineError Unit
  | .error e => .error e.toMachineError
  | .ok op =>
    match op.error with
    | none => .ok ()
    | some payload => .error (ofOperation name payload.errors)

/-- **The first reply that ends the wait**, and the instant at which it comes. -/
def EndsAt (interval first : Nat) (script : LookScript) (t : Nat)
    (reply : Except ServiceError Operation) : Prop :=
  ∃ n, replyAt interval first script n = some (t, reply) ∧ endsWait reply = true ∧
    ∀ k < n, ∀ x ∈ replyAt interval first script k, endsWait x.2 = false

variable {interval first : Nat} {script : LookScript} {n m t u : Nat} {l : LookTime}
  {reply reply' : Except ServiceError Operation}

theorem replyAt_eq_some :
    replyAt interval first script n = some (t, reply) ↔
      ∃ l ms, lookTime interval first script n = some l ∧ script n = .after ms reply ∧
        t = l.begins + ms := by
  unfold replyAt
  split
  · next l ms r hl hs =>
    simp only [hl, hs, Option.some.injEq, Prod.mk.injEq, Response.after.injEq]
    constructor
    · rintro ⟨rfl, rfl⟩; exact ⟨l, ms, rfl, ⟨rfl, rfl⟩, rfl⟩
    · rintro ⟨l', ms', rfl, ⟨rfl, rfl⟩, rfl⟩; exact ⟨rfl, rfl⟩
  · next h =>
    constructor
    · intro h'; cases h'
    · rintro ⟨l, ms, hl, hs, -⟩; exact absurd hs (h l ms reply hl)

theorem lookTime_succ {ms : Nat} (hl : lookTime interval first script n = some l)
    (hs : script n = .after ms reply) :
    lookTime interval first script (n + 1) =
      some ⟨nextTick interval l.planned l.begins,
        max (nextTick interval l.planned l.begins) (l.begins + ms)⟩ := by
  rw [lookTime, hl, hs]

theorem lookTime_of_succ (hl : lookTime interval first script (n + 1) = some l) :
    ∃ u reply, replyAt interval first script n = some (u, reply) ∧ u ≤ l.begins := by
  rw [lookTime] at hl
  split at hl
  · next l' ms r hl' hs =>
    cases hl
    exact ⟨_, _, replyAt_eq_some.mpr ⟨l', ms, hl', hs, rfl⟩, Nat.le_max_right _ _⟩
  · cases hl

theorem replyAt_of_le (hnm : n ≤ m) (hr : replyAt interval first script m = some (t, reply)) :
    ∃ u reply', replyAt interval first script n = some (u, reply') ∧ u ≤ t := by
  induction m generalizing t reply with
  | zero =>
    have : n = 0 := by omega
    subst this
    exact ⟨t, reply, hr, Nat.le_refl _⟩
  | succ m ih =>
    rcases Nat.lt_or_ge m n with h | h
    · have : n = m + 1 := by omega
      subst this
      exact ⟨t, reply, hr, Nat.le_refl _⟩
    · obtain ⟨l, ms, hl, -, rfl⟩ := replyAt_eq_some.mp hr
      obtain ⟨v, reply'', hv, hle⟩ := lookTime_of_succ hl
      obtain ⟨u, reply', hu, hle'⟩ := ih h hv
      exact ⟨u, reply', hu, by omega⟩

theorem pending_succ (hb : ∀ k < n, ∀ x ∈ replyAt interval first script k, endsWait x.2 = false)
    (hr : replyAt interval first script n = some (t, reply)) (he : endsWait reply = false) :
    ∀ k < n + 1, ∀ x ∈ replyAt interval first script k, endsWait x.2 = false := by
  intro k hk x hx
  rcases Nat.lt_succ_iff_lt_or_eq.mp hk with hk | rfl
  · exact hb k hk x hx
  · rw [hr] at hx
    cases hx
    exact he

theorem EndsAt.unique (h : EndsAt interval first script t reply)
    (h' : EndsAt interval first script u reply') : t = u ∧ reply = reply' := by
  obtain ⟨n, hn, he, hb⟩ := h
  obtain ⟨m, hm, he', hb'⟩ := h'
  rcases Nat.lt_trichotomy n m with hlt | rfl | hlt
  · rw [hb' n hlt _ hn] at he; cases he
  · rw [hn] at hm; cases hm; exact ⟨rfl, rfl⟩
  · rw [hb m hlt _ hm] at he'; cases he'

theorem EndsAt.le_index (h : EndsAt interval first script t reply)
    (hb : ∀ k < n, ∀ x ∈ replyAt interval first script k, endsWait x.2 = false) :
    ∃ m, n ≤ m ∧ replyAt interval first script m = some (t, reply) := by
  obtain ⟨m, hm, he, -⟩ := h
  refine ⟨m, Nat.le_of_not_lt fun hlt => ?_, hm⟩
  rw [hb m hlt _ hm] at he
  cases he

theorem EndsAt.le_reply (h : EndsAt interval first script t reply)
    (hl : lookTime interval first script n = some l)
    (hb : ∀ k < n, ∀ x ∈ replyAt interval first script k, endsWait x.2 = false) :
    ∃ ms reply', script n = .after ms reply' ∧ l.begins + ms ≤ t := by
  obtain ⟨m, hm, hr⟩ := h.le_index hb
  obtain ⟨u, reply', hu, hle⟩ := replyAt_of_le hm hr
  obtain ⟨l', ms, hl', hms, rfl⟩ := replyAt_eq_some.mp hu
  rw [hl] at hl'
  cases hl'
  exact ⟨ms, reply', hms, hle⟩

end GceMachines.Lifecycle
