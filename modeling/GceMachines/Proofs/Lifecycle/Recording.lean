import GceMachines.Proofs.Lifecycle.Looks
import GceMachines.Proofs.Lifecycle.Simulation

/-!
# A record of the calls

To tell which calls a backend accepts, the calls that reach it are written down together with what
it makes of them. Nobody looks at the record, so a plan runs as it does without one. One question
writes down one call at most, and if it is a look behind a sleep that has come to its end, it writes
down exactly that call.

* `Served`, `Backend.recording`: a call with its response, and the backend with its record.
* `Backend.run_recording_agree`: without the record, a plan runs the same.
* `World.Noted`: what is written down between two moments.
* `Backend.noted_handler`, `Backend.noted_bounded`: what one question writes down.
-/

namespace GceMachines

variable {σ α : Type}

/-- A look at an operation. -/
def Request.isLook : Request → Bool
  | .operation _ _ _ => true
  | _ => false

theorem Request.isLook_eq_false {r : Request} (h : r.isMutation = true) : r.isLook = false := by
  cases r with
  | operation _ _ _ => cases h
  | _ => rfl

theorem Request.isMutation_eq_false {r : Request} (h : r.isLook = true) : r.isMutation = false := by
  cases r with
  | operation _ _ _ => rfl
  | _ => cases h

/-- **A call that reached a backend**, and what the backend made of it. -/
structure Served where
  request : Request
  response : Response request.Reply

namespace Served

/-- Whether a look was made, answered or not. -/
def isLook (e : Served) : Bool := e.request.isLook

/-- Whether a change was asked for and accepted. -/
def isAccepted (e : Served) : Bool :=
  e.request.isMutation && match e.response with
    | .after _ (.ok _) => true
    | _ => false

end Served

/-- **A backend with a record** of its calls, the latest first. -/
def Backend.recording (b : Backend σ) : Backend (σ × List Served) where
  connect secret x := ((b.connect secret x.1).1, (b.connect secret x.1).2, x.2)
  call r x := ((b.call r x.1).1, (b.call r x.1).2, ⟨r, (b.call r x.1).1⟩ :: x.2)
  wait ms x := (b.wait ms x.1, x.2)
  interrupted x := b.interrupted x.1

/-! ### Without the record -/

/-- **The record changes nothing** for the backend. -/
theorem Backend.recording_agrees (b : Backend σ) :
    b.recording.Agrees b (fun _ => True) fun x s => x.1 = s where
  connect := by rintro secret x _ - rfl; exact ⟨rfl, rfl⟩
  call := by rintro r x _ - rfl; exact ⟨rfl, rfl⟩
  wait := by rintro ms x _ rfl; rfl
  interrupted := by rintro x _ rfl; rfl

/-- **The record changes nothing** for a plan. -/
theorem Backend.run_recording_agree (b : Backend σ) (cancelAt : Option Nat)
    {v : World (σ × List Served)} {w : World σ} (hw : World.Agree (fun x s => x.1 = s) v w)
    (p : Plan α) :
    Program.Outcome.Agree (World.Agree fun x s => x.1 = s) (b.recording.run cancelAt p v)
      (b.run cancelAt p w) :=
  Backend.run_agree b.recording_agrees hw p fun _ _ => trivial

/-! ### What is written down -/

namespace World

/-- The calls that reached the backend, the latest first. -/
def asked (w : World σ) : List Request := w.contacts.filterMap fun e => e.2.request?

theorem map_snd_calls (w : World σ) : w.calls.map Prod.snd = w.asked.reverse := by
  unfold calls asked
  rw [← List.filterMap_reverse, List.map_filterMap]
  congr
  funext ⟨t, c⟩
  cases c <;> rfl

/-- **Between two moments, some calls are written down**, the latest first, and nothing is counted.
-/
structure Noted (more : List Served) (w w' : World (σ × List Served)) : Prop where
  record : w'.state.2 = more ++ w.state.2
  asked : w'.asked = more.map Served.request ++ w.asked
  measures : w'.measures = w.measures

namespace Noted

variable {more : List Served} {w w' : World (σ × List Served)}

theorem refl (w : World (σ × List Served)) : Noted [] w w := ⟨rfl, rfl, rfl⟩

theorem firstOf (h : Noted more w w') (cancelAt deadline : Option Nat)
    (comes : Option (Nat × α)) :
    Noted more w (Backend.firstOf w' cancelAt deadline comes).state := by
  rcases Backend.state_firstOf w' cancelAt deadline comes with he | ⟨t, he⟩
  · rw [he]
    exact h
  · rw [he]
    exact ⟨h.record, h.asked, h.measures⟩

theorem noticing {b : Backend σ} {out : Program.Outcome (World (σ × List Served)) (Waited α)}
    (h : Noted more w out.state) (v : World (σ × List Served)) :
    Noted more w (b.recording.noticing v out).state := by
  cases out with
  | answered a w' => exact ⟨h.record, h.asked, h.measures⟩
  | stuck w' => exact h

end Noted

end World

namespace Backend

open World (Noted)

variable {b : Backend σ} {cancelAt deadline : Option Nat} {w w' : World (σ × List Served)}
  {r : Request}

/-- The call that is made in a world, with its response. -/
abbrev served (b : Backend σ) (r : Request) (w : World (σ × List Served)) : Served :=
  ⟨r, (b.call r w.state.1).1⟩

theorem noted_seeThrough {more : List Served} (c : Contact)
    (reply : σ × List Served → Response α × (σ × List Served))
    (hrecord : (reply w.state).2.2 = more ++ w.state.2)
    (hasked : c.request?.toList = more.map Served.request) :
    Noted more w (seeThrough c reply w).state := by
  refine ⟨?_, ?_, ?_⟩
  · rw [state_seeThrough, hrecord]
  · unfold World.asked
    rw [contacts_seeThrough, ← hasked]
    cases c <;> rfl
  · unfold seeThrough
    cases reply w.state with | _ response x => cases response <;> rfl

theorem noted_call (b : Backend σ) (cancelAt : Option Nat) (r : Request)
    (w : World (σ × List Served)) :
    Noted [b.served r w] w (b.recording.handler cancelAt (.call r) w).state :=
  noted_seeThrough (.call r) (b.recording.call r) rfl rfl

theorem call_of_answered {reply : Except ServiceError r.Reply}
    (h : b.recording.handler cancelAt (.call r) w = .answered reply w') :
    ∃ ms, (b.call r w.state.1).1 = .after ms reply := by
  simp only [handler, seeThrough, recording] at h
  cases hc : (b.call r w.state.1).1 with
  | never =>
    rw [hc] at h
    cases h
  | after ms result =>
    rw [hc] at h
    cases h
    exact ⟨ms, rfl⟩

theorem call_of_stuck (h : b.recording.handler cancelAt (.call r) w = .stuck w') :
    (b.call r w.state.1).1 = .never := by
  simp only [handler, seeThrough, recording] at h
  cases hc : (b.call r w.state.1).1 with
  | never => rfl
  | after ms result =>
    rw [hc] at h
    cases h

theorem noted_connect (b : Backend σ) (cancelAt : Option Nat) (secret : Secret)
    (w : World (σ × List Served)) :
    Noted [] w (b.recording.handler cancelAt (.connect secret) w).state :=
  noted_seeThrough (.connect secret) (b.recording.connect secret) rfl rfl

/-- A call that is neither cancelled nor late is written down, even if nobody waits for its answer.
-/
theorem noted_waitFor_of_open (hc : b.recording.isCancelled cancelAt w = false)
    (hd : ∀ d ∈ deadline, w.now < d) :
    Noted [b.served r w] w (b.recording.waitFor cancelAt deadline r w).state := by
  have hearly : deadline.any (fun d => decide (d ≤ w.now)) = false := by
    cases deadline with
    | none => rfl
    | some d =>
      have := hd d rfl
      simp only [Option.any_some, decide_eq_false_iff_not]
      omega
  have hnoted : Noted [b.served r w] w
      { w with
        state := (b.recording.call r w.state).2
        contacts := (w.now, .call r) :: w.contacts } := ⟨rfl, rfl, rfl⟩
  unfold waitFor
  rw [hc, hearly, if_neg Bool.false_ne_true, if_neg Bool.false_ne_true]
  cases hcall : b.recording.call r w.state with
  | mk response x =>
    rw [hcall] at hnoted
    cases response with
    | after ms result => exact hnoted.firstOf _ _ _
    | never =>
      dsimp only
      split
      · exact hnoted
      · exact hnoted.firstOf _ _ _

theorem noted_waitFor (b : Backend σ) (cancelAt deadline : Option Nat) (r : Request)
    (w : World (σ × List Served)) :
    Noted [] w (b.recording.waitFor cancelAt deadline r w).state ∨
      Noted [b.served r w] w (b.recording.waitFor cancelAt deadline r w).state := by
  cases hc : b.recording.isCancelled cancelAt w with
  | true =>
    unfold waitFor
    rw [hc, if_pos rfl]
    exact .inl (.refl w)
  | false =>
    by_cases hd : ∀ d ∈ deadline, w.now < d
    · exact .inr (noted_waitFor_of_open hc hd)
    · have hlate : deadline.any (fun d => decide (d ≤ w.now)) = true := by
        simpa [Option.any_eq_true] using hd
      unfold waitFor
      rw [hc, hlate, if_neg Bool.false_ne_true, if_pos rfl]
      exact .inl (.refl w)

theorem noted_sleep (b : Backend σ) (cancelAt : Option Nat) (wake deadline : Nat)
    (w : World (σ × List Served)) :
    Noted [] w (b.recording.handler cancelAt (.sleep wake deadline) w).state := by
  simp only [handler]
  split
  · exact .refl w
  · exact ((World.Noted.refl w).firstOf _ _ _).noticing w

/-- **What one question writes down**, if it does not count: its call, or nothing. -/
theorem noted_handler (b : Backend σ) (cancelAt : Option Nat) {q : Ask}
    (hq : ∀ m, q ≠ .count m) (w : World (σ × List Served)) :
    Noted [] w (b.recording.handler cancelAt q w).state ∨
      ∃ r ∈ q.request?, Noted [b.served r w] w (b.recording.handler cancelAt q w).state := by
  cases q with
  | connect secret => exact .inl (b.noted_connect cancelAt secret w)
  | call r => exact .inr ⟨r, rfl, b.noted_call cancelAt r w⟩
  | abortable r =>
    have hs : (b.recording.handler cancelAt (.abortable r) w).state =
        (b.recording.waitFor cancelAt none r w).state := by
      simp only [handler]
      cases b.recording.waitFor cancelAt none r w <;> rfl
    rw [hs]
    exact (b.noted_waitFor cancelAt none r w).imp_right fun h => ⟨r, rfl, h⟩
  | bounded r d => exact (b.noted_waitFor cancelAt (some d) r w).imp_right fun h => ⟨r, rfl, h⟩
  | sleep wake d => exact .inl (b.noted_sleep cancelAt wake d w)
  | cancelled => exact .inl (.refl w)
  | clock => exact .inl (.refl w)
  | count m => exact absurd rfl (hq m)

/-! ### Looks -/

theorem isCancelled_of_sleep {b : Backend α} {planned limit : Nat} {w w' : World α}
    (h : b.handler cancelAt (.sleep planned limit) w = .answered (.came ()) w') :
    b.isCancelled cancelAt w' = false := by
  obtain ⟨-, hc, -⟩ := sleep_eq_came h
  simp only [handler] at h
  split at h
  · cases h
  · obtain ⟨w₁, -, -, -, -, hi⟩ := noticing_eq_came h
    unfold isCancelled
    rw [hi, Bool.or_false]
    cases cancelAt with
    | none => rfl
    | some c =>
      have := hc c rfl
      simp only [Option.any_some, decide_eq_false_iff_not]
      omega

/-- **A look behind a sleep that has come to its end** is written down, whatever comes of it. -/
theorem noted_bounded {planned limit : Nat}
    (h : b.recording.handler cancelAt (.sleep planned limit) w = .answered (.came ()) w')
    (m : Measure) (r : Request) :
    Noted [b.served r w'] (w'.measure m)
      (b.recording.handler cancelAt (.bounded r limit) (w'.measure m)).state := by
  have hopen : b.recording.isCancelled cancelAt w' = false := isCancelled_of_sleep h
  refine noted_waitFor_of_open (w := w'.measure m) hopen fun d hd => ?_
  obtain rfl := Option.some.inj hd
  exact (sleep_eq_came h).2.2

end Backend

end GceMachines
