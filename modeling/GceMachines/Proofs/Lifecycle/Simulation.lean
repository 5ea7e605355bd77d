import GceMachines.Proofs.Lifecycle.Questions
import GceMachines.Proofs.Program.Agreement

/-!
# Backends that answer alike

One backend answers like another if every contact has the same response on both sides, in states
that belong together. Plans cannot tell two such backends apart: their runs tell the same at the
same times. If two backends answer only some contacts alike, that holds of the runs without others.

* `Backend.Agrees`: a backend that answers like another.
* `World.Agree`: two moments that a plan cannot tell apart.
* `Backend.responses_agree`: calls one after another.
* `Backend.run_agree`: the runs of a plan.
-/

namespace GceMachines

variable {σ τ α : Type} {R : σ → τ → Prop} {P : Contact → Prop}

/-- **A backend that answers like another**, as far as contacts of some kind are concerned. -/
structure Backend.Agrees (b : Backend σ) (c : Backend τ) (P : Contact → Prop)
    (R : σ → τ → Prop) : Prop where
  connect : ∀ secret s t, P (.connect secret) → R s t →
    (b.connect secret s).1 = (c.connect secret t).1 ∧
      R (b.connect secret s).2 (c.connect secret t).2
  call : ∀ r s t, P (.call r) → R s t →
    (b.call r s).1 = (c.call r t).1 ∧ R (b.call r s).2 (c.call r t).2
  wait : ∀ ms s t, R s t → R (b.wait ms s) (c.wait ms t)
  interrupted : ∀ s t, R s t → b.interrupted s = c.interrupted t

/-- **Two moments that a plan cannot tell apart.** -/
structure World.Agree (R : σ → τ → Prop) (v : World σ) (w : World τ) : Prop where
  now : v.now = w.now
  state : R v.state w.state
  contacts : v.contacts = w.contacts
  measures : v.measures = w.measures

namespace World.Agree

variable {v : World σ} {w : World τ}

theorem mono {R' : σ → τ → Prop} (hR : ∀ s t, R s t → R' s t) (h : World.Agree R v w) :
    World.Agree R' v w :=
  ⟨h.now, hR _ _ h.state, h.contacts, h.measures⟩

theorem advance (h : World.Agree R v w) (t : Nat) : World.Agree R (v.advance t) (w.advance t) :=
  ⟨by simp only [World.advance, h.now], h.state, h.contacts, h.measures⟩

theorem contacted (h : World.Agree R v w) (k : Contact) {s : σ} {t : τ} (hs : R s t) :
    World.Agree R { v with state := s, contacts := (v.now, k) :: v.contacts }
      { w with state := t, contacts := (w.now, k) :: w.contacts } :=
  ⟨h.now, hs, by rw [h.now, h.contacts], h.measures⟩

end World.Agree

namespace Backend

open Program

variable {b : Backend σ} {c : Backend τ} {cancelAt : Option Nat} {v : World σ} {w : World τ}

/-! ### One question -/

theorem isCancelled_agree (h : b.Agrees c P R) (hw : World.Agree R v w) :
    b.isCancelled cancelAt v = c.isCancelled cancelAt w := by
  unfold isCancelled
  rw [hw.now, h.interrupted _ _ hw.state]

theorem firstOf_agree (hw : World.Agree R v w) (deadline : Option Nat) (comes : Option (Nat × α)) :
    Outcome.Agree (World.Agree R) (firstOf v cancelAt deadline comes)
      (firstOf w cancelAt deadline comes) := by
  unfold firstOf
  dsimp only
  rw [hw.now]
  split
  · exact .answered _ (hw.advance _)
  · split
    · exact .answered _ (hw.advance _)
    · split
      · exact .answered _ (hw.advance _)
      · exact .stuck hw

theorem seeThrough_agree (hw : World.Agree R v w) (k : Contact) {reply : σ → Response α × σ}
    {reply' : τ → Response α × τ}
    (hr : (reply v.state).1 = (reply' w.state).1 ∧ R (reply v.state).2 (reply' w.state).2) :
    Outcome.Agree (World.Agree R) (seeThrough k reply v) (seeThrough k reply' w) := by
  obtain ⟨hsame, hstate⟩ := hr
  unfold seeThrough
  cases hv : reply v.state with | _ response s =>
  cases hw' : reply' w.state with | _ response' t =>
  rw [hv, hw'] at hsame hstate
  dsimp only at hsame hstate
  subst hsame
  dsimp only
  rw [hw.now]
  have hafter := hw.contacted k hstate
  cases response with
  | after ms result =>
    rw [hw.now] at hafter
    exact .answered _ (hafter.advance _)
  | never =>
    rw [hw.now] at hafter
    exact .stuck hafter

theorem waitFor_agree (h : b.Agrees c P R) (hw : World.Agree R v w) (deadline : Option Nat)
    (r : Request)
    (hr : (c.waitFor cancelAt deadline r w).state.contacts = (w.now, .call r) :: w.contacts →
      P (.call r)) :
    Outcome.Agree (World.Agree R) (b.waitFor cancelAt deadline r v)
      (c.waitFor cancelAt deadline r w) := by
  revert hr
  unfold waitFor
  rw [isCancelled_agree h hw, hw.now]
  split
  · exact fun _ => .answered _ hw
  · split
    · exact fun _ => .answered _ hw
    · intro hr
      have hp : P (.call r) := by
        refine hr ?_
        cases c.call r w.state with | _ response t =>
        cases response with
        | after ms result => exact contacts_firstOf _ _ _ _
        | never =>
          dsimp only
          split
          · rfl
          · exact contacts_firstOf _ _ _ _
      obtain ⟨hsame, hstate⟩ := h.call r v.state w.state hp hw.state
      cases hv : b.call r v.state with | _ response s =>
      cases hw' : c.call r w.state with | _ response' t =>
      rw [hv, hw'] at hsame hstate
      dsimp only at hsame hstate
      subst hsame
      have hafter := hw.contacted (.call r) hstate
      rw [hw.now] at hafter
      cases response with
      | after ms result => exact firstOf_agree hafter _ _
      | never =>
        dsimp only
        rw [h.interrupted s t hstate]
        split
        · exact .answered _ hafter
        · exact firstOf_agree hafter _ _

theorem abortable_agree (h : b.Agrees c P R) (hw : World.Agree R v w) (r : Request)
    (hr : (c.handler cancelAt (.abortable r) w).state.contacts = (w.now, .call r) :: w.contacts →
      P (.call r)) :
    Outcome.Agree (World.Agree R) (b.handler cancelAt (.abortable r) v)
      (c.handler cancelAt (.abortable r) w) := by
  have hstate : (c.handler cancelAt (.abortable r) w).state =
      (c.waitFor cancelAt none r w).state := by
    simp only [handler]
    cases c.waitFor cancelAt none r w <;> rfl
  have hsame := waitFor_agree h hw none r (hstate ▸ hr)
  simp only [handler]
  generalize b.waitFor cancelAt none r v = out at hsame
  generalize c.waitFor cancelAt none r w = out' at hsame
  cases hsame with
  | answered how hafter => exact .answered _ hafter
  | stuck hafter => exact .stuck hafter

theorem sleep_agree (h : b.Agrees c P R) (hw : World.Agree R v w) (wake deadline : Nat) :
    Outcome.Agree (World.Agree R) (b.handler cancelAt (.sleep wake deadline) v)
      (c.handler cancelAt (.sleep wake deadline) w) := by
  have hsame : Outcome.Agree (World.Agree R)
      (firstOf v cancelAt (some deadline) (some (wake, ())))
      (firstOf w cancelAt (some deadline) (some (wake, ()))) := firstOf_agree hw _ _
  simp only [handler]
  rw [isCancelled_agree h hw]
  split
  · exact .answered _ hw
  · generalize firstOf v cancelAt (some deadline) (some (wake, ())) = out at hsame
    generalize firstOf w cancelAt (some deadline) (some (wake, ())) = out' at hsame
    cases hsame with
    | answered how hafter =>
      simp only [noticing]
      rw [hw.now, hafter.now, h.interrupted _ _ (h.wait _ _ _ hafter.state)]
      exact .answered _ ⟨rfl, h.wait _ _ _ hafter.state, hafter.contacts, hafter.measures⟩
    | stuck hafter => exact .stuck hafter

/-- **One question** is answered alike, if its contact with the backend is. -/
theorem handler_agree (h : b.Agrees c P R) (hw : World.Agree R v w) (q : Ask)
    (hq : ∀ k, (c.handler cancelAt q w).state.contacts = (w.now, k) :: w.contacts → P k) :
    Outcome.Agree (World.Agree R) (b.handler cancelAt q v) (c.handler cancelAt q w) := by
  cases q with
  | connect secret =>
    have hp : P (.connect secret) := hq _ (contacts_seeThrough _ _ w)
    exact seeThrough_agree hw _ (h.connect secret _ _ hp hw.state)
  | call r =>
    have hp : P (.call r) := hq _ (contacts_seeThrough _ _ w)
    exact seeThrough_agree hw _ (h.call r _ _ hp hw.state)
  | abortable r => exact abortable_agree h hw r (hq _)
  | bounded r deadline => exact waitFor_agree h hw (some deadline) r (hq _)
  | sleep wake deadline => exact sleep_agree h hw wake deadline
  | cancelled =>
    simp only [handler]
    rw [isCancelled_agree h hw]
    exact .answered _ hw
  | clock =>
    simp only [handler]
    rw [hw.now]
    exact .answered _ hw
  | count m => exact .answered _ ⟨hw.now, hw.state, hw.contacts, by rw [hw.measures]⟩

/-! ### Calls one after another -/

/-- **The responses to calls** that are made one after another. -/
def responses (b : Backend σ) : List Request → σ → List ((r : Request) × Response r.Reply) × σ
  | [], s => ([], s)
  | r :: rs, s =>
    let (response, s) := b.call r s
    let (later, s) := b.responses rs s
    (⟨r, response⟩ :: later, s)

theorem responses_agree (h : b.Agrees c P R) :
    ∀ {rs : List Request} {s : σ} {t : τ}, (∀ r ∈ rs, P (.call r)) → R s t →
      (b.responses rs s).1 = (c.responses rs t).1 ∧ R (b.responses rs s).2 (c.responses rs t).2
  | [], _, _, _, hr => ⟨rfl, hr⟩
  | r :: rs, s, t, hp, hr => by
    obtain ⟨hfirst, hrest⟩ := List.forall_mem_cons.mp hp
    obtain ⟨hsame, hstate⟩ := h.call r s t hfirst hr
    obtain ⟨hlater, hend⟩ := responses_agree h hrest hstate
    refine ⟨?_, hend⟩
    show ⟨r, (b.call r s).1⟩ :: (b.responses rs (b.call r s).2).1 =
      ⟨r, (c.call r t).1⟩ :: (c.responses rs (c.call r t).2).1
    rw [hsame, hlater]

/-! ### Runs -/

theorem mem_contacts_handler (q : Ask) {e : Nat × Contact} (he : e ∈ w.contacts) :
    e ∈ (c.handler cancelAt q w).state.contacts := by
  rcases c.handler_effect cancelAt q w with ⟨hc, -⟩ | ⟨secret, -, hc, -⟩ | ⟨r, -, hc, -⟩
  · rw [hc]
    exact he
  · rw [hc]
    exact .tail _ he
  · rw [hc]
    exact .tail _ he

theorem mem_contacts_run (p : Plan α) {e : Nat × Contact} (he : e ∈ w.contacts) :
    e ∈ (c.run cancelAt p w).state.contacts :=
  run_keeps (B := fun w => e ∈ w.contacts) (fun q _ => mem_contacts_handler q) p w he

/-- **Runs without other contacts agree**: what the one backend tells is what the other tells, at
the same times, if all contacts of the run are of the kind that both answer alike. -/
theorem run_agree (h : b.Agrees c P R) (hw : World.Agree R v w) (p : Plan α)
    (hp : ∀ e ∈ (c.run cancelAt p w).state.contacts, P e.2) :
    Outcome.Agree (World.Agree R) (b.run cancelAt p v) (c.run cancelAt p w) := by
  refine run_agree_unless (B := fun w => ∃ e ∈ w.contacts, ¬ P e.2) ?_ ?_ p hw ?_
  · rintro q w ⟨e, he, hnot⟩
    exact ⟨e, mem_contacts_handler q he, hnot⟩
  · intro q v w hw hend
    refine handler_agree h hw q fun k hc => Classical.byContradiction fun hnot => hend ?_
    exact ⟨(w.now, k), hc ▸ .head _, hnot⟩
  · rintro ⟨e, he, hnot⟩
    exact hnot (hp e he)

end Backend

end GceMachines
