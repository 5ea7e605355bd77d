import GceMachines.Driver
import GceMachines.Proofs.Lifecycle.Questions
import GceMachines.Proofs.Program.Agreement

/-!
# Plans that differ in a secret

A plan hands a secret over where it connects. Take two plans that ask the same questions, except
that the one connects with one secret where the other connects with another one. A backend that
answers connections with the two secrets alike cannot tell the plans apart: they come to the same
at the same times, with the same calls.

* `World.behind`, `Backend.handler_behind`: what was contacted before changes no answer.
* `World.Alike`: two moments that differ in the secrets of their connections at most.
* `Plan.Alike`: two plans that differ in the secret that they connect with.
* `Plan.Alike.run`: a backend that answers both secrets alike runs such plans alike.
-/

namespace GceMachines

open Program (Outcome)

variable {σ τ α β : Type}

/-- An end whose state is seen in another way. -/
def Program.Outcome.onState (f : σ → τ) : Outcome σ α → Outcome τ α
  | .answered a s => .answered a (f s)
  | .stuck s => .stuck (f s)

/-! ### What was contacted before -/

/-- The same moment with earlier contacts. -/
def World.behind (earlier : List (Nat × Contact)) (w : World σ) : World σ :=
  { w with contacts := w.contacts ++ earlier }

namespace Backend

variable {b : Backend σ} {cancelAt : Option Nat} {w : World σ} {earlier : List (Nat × Contact)}

theorem firstOf_behind (deadline : Option Nat) (comes : Option (Nat × α)) :
    firstOf (w.behind earlier) cancelAt deadline comes =
      (firstOf w cancelAt deadline comes).onState (World.behind earlier) := by
  rcases firstOf_cases w cancelAt deadline comes with
    ⟨c, hc, hd, hx, h⟩ | ⟨d, hd, hc, hx, h⟩ | ⟨x, hx, hc, hd, h⟩ | ⟨rfl, rfl, h⟩
  · rw [h]
    exact firstOf_eq_cancelled hc hd hx
  · rw [h]
    exact firstOf_eq_late hd hc hx
  · rw [h]
    exact firstOf_eq_came hx hc hd
  · cases cancelAt with
    | none => rfl
    | some c => cases h.symm.trans (firstOf_eq_cancelled rfl nofun nofun)

theorem seeThrough_behind (k : Contact) (reply : σ → Response α × σ) :
    seeThrough k reply (w.behind earlier) =
      (seeThrough k reply w).onState (World.behind earlier) := by
  have hstate : (w.behind earlier).state = w.state := rfl
  unfold seeThrough
  rw [hstate]
  cases reply w.state with | _ response s => cases response <;> rfl

theorem waitFor_behind (deadline : Option Nat) (r : Request) :
    b.waitFor cancelAt deadline r (w.behind earlier) =
      (b.waitFor cancelAt deadline r w).onState (World.behind earlier) := by
  have hcancelled : b.isCancelled cancelAt (w.behind earlier) = b.isCancelled cancelAt w := rfl
  have hnow : (w.behind earlier).now = w.now := rfl
  have hstate : (w.behind earlier).state = w.state := rfl
  unfold waitFor
  rw [hcancelled, hnow, hstate]
  split
  · rfl
  · split
    · rfl
    · cases b.call r w.state with | _ response s =>
      have hcomes (comes : Option (Nat × Except ServiceError r.Reply)) :
          firstOf (World.behind earlier
            { w with state := s, contacts := (w.now, .call r) :: w.contacts }) cancelAt deadline
            comes = _ := firstOf_behind deadline comes
      cases response with
      | after ms result => exact hcomes _
      | never =>
        dsimp only
        split
        · rfl
        · exact hcomes none

/-- **What was contacted before changes no answer.** -/
theorem handler_behind (q : Ask) :
    b.handler cancelAt q (w.behind earlier) =
      (b.handler cancelAt q w).onState (World.behind earlier) := by
  cases q with
  | connect secret => exact seeThrough_behind _ _
  | call r => exact seeThrough_behind _ _
  | abortable r =>
    simp only [handler, waitFor_behind]
    cases b.waitFor cancelAt none r w <;> rfl
  | bounded r deadline => exact waitFor_behind _ _
  | sleep wake deadline =>
    have hcancelled : b.isCancelled cancelAt (w.behind earlier) = b.isCancelled cancelAt w := rfl
    simp only [handler, hcancelled, firstOf_behind]
    split
    · rfl
    · cases firstOf w cancelAt (some deadline) (some (wake, ())) <;> rfl
  | cancelled => rfl
  | clock => rfl
  | count m => rfl

end Backend

/-! ### Moments that are alike -/

/-- What of a contact is not a secret. -/
def openly (e : Nat × Contact) : Nat × Option Request := (e.1, e.2.request?)

/-- **Two moments that differ in the secrets of their connections** at most. -/
structure World.Alike (v w : World σ) : Prop where
  now : v.now = w.now
  state : v.state = w.state
  contacts : v.contacts.map openly = w.contacts.map openly
  measures : v.measures = w.measures

namespace World.Alike

variable {u v w : World σ}

theorem refl (w : World σ) : World.Alike w w := ⟨rfl, rfl, rfl, rfl⟩

/-- **The calls are the same.** -/
theorem calls_eq (h : World.Alike v w) : v.calls = w.calls := by
  have hcalls (w : World σ) : w.calls =
      (w.contacts.map openly).reverse.filterMap fun e => e.2.map fun r => (e.1, r) := by
    rw [World.calls, ← List.map_reverse, List.filterMap_map]
    rfl
  rw [hcalls, hcalls, h.contacts]

theorem advance (h : World.Alike v w) (t : Nat) : World.Alike (v.advance t) (w.advance t) :=
  ⟨by simp only [World.advance, h.now], h.state, h.contacts, h.measures⟩

theorem behind {earlier earlier' : List (Nat × Contact)}
    (h : earlier.map openly = earlier'.map openly) :
    World.Alike (u.behind earlier) (u.behind earlier') :=
  ⟨rfl, rfl, by simp only [World.behind, List.map_append, h], rfl⟩

theorem exists_behind (h : World.Alike v w) :
    ∃ u : World σ, v = u.behind v.contacts ∧ w = u.behind w.contacts := by
  refine ⟨{ v with contacts := [] }, rfl, ?_⟩
  obtain ⟨now, state, contacts, measures⟩ := w
  obtain ⟨rfl, rfl, -, rfl⟩ := h
  rfl

end World.Alike

/-! ### Plans that are alike -/

/-- **Two plans that differ in the secret** that they connect with: the one connects with `s` where
the other connects with `t`. -/
inductive Plan.Alike (s t : Secret) : Plan α → Plan α → Prop
  | done (a : α) : Alike s t (.done a) (.done a)
  | unfinished : Alike s t .unfinished .unfinished
  | ask (q : Ask) {next next' : q.Answer → Plan α} (h : ∀ a, Alike s t (next a) (next' a)) :
      Alike s t (.ask q next) (.ask q next')
  | connect {next next' : Except ServiceError Unit → Plan α}
      (h : ∀ r, Alike s t (next r) (next' r)) :
      Alike s t (.ask (.connect s) next) (.ask (.connect t) next')

namespace Plan.Alike

variable {s t : Secret} {p q : Plan α}

theorem refl : ∀ p : Plan α, Alike s t p p
  | .done a => .done a
  | .unfinished => .unfinished
  | .ask q next => .ask q fun a => refl (next a)

theorem bind {f g : α → Plan β} (hp : Alike s t p q) (hf : ∀ a, Alike s t (f a) (g a)) :
    Alike s t (p.bind f) (q.bind g) := by
  induction hp with
  | done a => exact hf a
  | unfinished => exact .unfinished
  | ask q h ih => exact .ask q ih
  | connect h ih => exact .connect ih

theorem bindOk {p q : Plan (Except MachineError α)} {f g : α → Plan (Except MachineError β)}
    (hp : Alike s t p q) (hf : ∀ a, Alike s t (f a) (g a)) :
    Alike s t (p.bindOk f) (q.bindOk g) := by
  refine hp.bind fun r => ?_
  cases r with
  | ok a => exact hf a
  | error e => exact .done _

variable {b : Backend σ} {cancelAt : Option Nat} {v w : World σ}

theorem handler_alike (hw : World.Alike v w) (q : Ask) :
    Outcome.Agree World.Alike (b.handler cancelAt q v) (b.handler cancelAt q w) := by
  obtain ⟨u, hv, hu⟩ := hw.exists_behind
  rw [hv, hu, Backend.handler_behind, Backend.handler_behind]
  cases b.handler cancelAt q u with
  | answered a u' => exact .answered a (.behind hw.contacts)
  | stuck u' => exact .stuck (.behind hw.contacts)

theorem connect_alike (hb : b.connect s = b.connect t) (hw : World.Alike v w) :
    Outcome.Agree World.Alike (b.handler cancelAt (.connect s) v)
      (b.handler cancelAt (.connect t) w) := by
  have hafter (x : σ) : World.Alike
      { v with state := x, contacts := (v.now, .connect s) :: v.contacts }
      { w with state := x, contacts := (w.now, .connect t) :: w.contacts } :=
    ⟨hw.now, rfl, by simp only [List.map_cons, hw.contacts, hw.now]; rfl, hw.measures⟩
  show Outcome.Agree World.Alike (Backend.seeThrough (.connect s) (b.connect s) v)
    (Backend.seeThrough (.connect t) (b.connect t) w)
  unfold Backend.seeThrough
  rw [hb, hw.state]
  cases b.connect t w.state with | _ response x =>
  cases response with
  | after ms result =>
    dsimp only
    rw [hw.now] at hafter ⊢
    exact .answered _ ((hafter x).advance _)
  | never => exact .stuck (hafter x)

/-- **Plans that differ in their secret come to the same** if the backend answers both secrets
alike. -/
theorem run (hb : b.connect s = b.connect t) (hp : Alike s t p q) (hw : World.Alike v w) :
    Outcome.Agree World.Alike (b.run cancelAt p v) (b.run cancelAt q w) := by
  unfold Backend.run
  induction hp generalizing v w with
  | done a => exact .answered a hw
  | unfinished => exact .stuck hw
  | ask q h ih =>
    rw [Program.run_ask, Program.run_ask]
    exact (handler_alike hw q).andThen fun a _ _ hafter => ih a hafter
  | connect h ih =>
    rw [Program.run_ask, Program.run_ask]
    exact (connect_alike hb hw).andThen fun r _ _ hafter => ih r hafter

end Plan.Alike

/-! ### The calls -/

namespace Lifecycle

open Plan.Alike (refl)

variable {s t : Secret} {limits : Limits} {name id : String} {spec : ProviderSpec}

theorem connect_alike : Plan.Alike s t (connect s) (connect t) := .connect fun _ => .done _

theorem enter_alike (hp : s.project = t.project) : Plan.Alike s t (enter s) (enter t) := by
  unfold enter
  rw [hp]
  cases t.project with
  | error e => exact refl _
  | ok project => exact connect_alike.bindOk fun _ => refl _

theorem entering_alike (hp : s.project = t.project) {call : LifecycleCall}
    {f : String → Plan (Except MachineError α)} :
    Plan.Alike s t (counted call ((enter s).bindOk f)) (counted call ((enter t).bindOk f)) :=
  ((enter_alike hp).bindOk fun _ => refl _).bind fun _ => refl _

theorem create_alike (hp : s.project = t.project) (hu : s.userData = t.userData) :
    Plan.Alike s t (create limits name spec s) (create limits name spec t) := by
  unfold create
  rw [hu]
  exact entering_alike hp

theorem delete_alike (hp : s.project = t.project) :
    Plan.Alike s t (delete limits name spec s) (delete limits name spec t) :=
  entering_alike hp

theorem status_alike (hp : s.project = t.project) :
    Plan.Alike s t (status limits name spec s) (status limits name spec t) :=
  entering_alike hp

theorem list_alike (hp : s.project = t.project) :
    Plan.Alike s t (list limits spec s) (list limits spec t) :=
  entering_alike hp

theorem describe_alike : Plan.Alike s t (describe id s) (describe id t) := by
  unfold describe
  split
  · exact refl _
  · exact connect_alike.bindOk fun _ => refl _

end Lifecycle

namespace Driver

variable {s t : Secret} {activity : String} {text : List UInt8} {f : α → β}

theorem during_alike {p q : Plan (Except MachineError α)} (h : Plan.Alike s t p q) :
    Plan.Alike s t (during activity p f) (during activity q f) :=
  h.bind fun _ => .refl _

theorem gated_alike {p q : ProviderSpec → Plan (Except MachineError α)}
    (ha : Admission.accept text s = Admission.accept text t)
    (h : ∀ spec, Plan.Alike s t (p spec) (q spec)) :
    Plan.Alike s t (gated activity text s p f) (gated activity text t q f) := by
  unfold gated
  rw [ha]
  cases Admission.accept text t with
  | error e => exact .refl _
  | ok spec => exact during_alike (h spec)

end Driver

end GceMachines
