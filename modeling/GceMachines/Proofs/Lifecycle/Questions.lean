import GceMachines.Proofs.Lifecycle.Waiting
import GceMachines.Proofs.Program.Runs

/-!
# What a question does to a world

A question reaches the backend once at most, at the moment at which it is asked, and touches the
backend's state only through the backend. What is known of the calls of a plan, whatever the
answers, therefore says what a run can do to the world: a plan without changes leaves the
mutations as they were, and one without calls leaves the calls.

* `World.mutations`: the changes that were asked for so far.
* `handler_effect`: all that one question can do.
* `Plan.Calls`, `Plan.Within`: what all calls of a plan have in common.
* `Leads.mutations_eq`, `Leads.calls_eq`, `Leads.keeps_state`, `Leads.keeps_within`: what such calls
  leave as it was.
-/

namespace GceMachines

variable {σ α β : Type}

/-- The call that a question makes. -/
def Ask.request? : Ask → Option Request
  | .call r => some r
  | .abortable r => some r
  | .bounded r _ => some r
  | _ => none

/-- All calls of a question are of some kind. -/
def Ask.Calls (P : Request → Prop) (q : Ask) : Prop := ∀ r ∈ q.request?, P r

/-- **All calls of a plan**, whatever the answers, are of some kind. -/
abbrev Plan.Calls (P : Request → Prop) (p : Plan α) : Prop := p.Asks (Ask.Calls P)

/-- A question that does not connect, and whose calls are of some kind. -/
structure Ask.Within (P : Request → Prop) (q : Ask) : Prop where
  calls : q.Calls P
  connects_not : ∀ secret, q ≠ .connect secret

/-- **A plan that has connected**: it does not connect again, and all its calls, whatever the
answers, are of some kind. -/
abbrev Plan.Within (P : Request → Prop) (p : Plan α) : Prop := p.Asks (Ask.Within P)

theorem Plan.Within.calls {P : Request → Prop} {p : Plan α} (h : p.Within P) : p.Calls P :=
  h.mono fun _ hq => hq.calls

/-- A call that asks for no change. -/
def Request.Reads (r : Request) : Prop := r.isMutation = false

/-! ### Contacts, calls and mutations -/

namespace World

/-- The same moment with one more count. -/
def measure (w : World σ) (m : Measure) : World σ := { w with measures := m :: w.measures }

/-- **The changes that were asked for**, with their instants, the first one first. -/
def mutations (w : World σ) : List (Nat × Request) := w.calls.filter fun e => e.2.isMutation

variable {w w' : World σ}

theorem calls_of_contacts_eq (hc : w'.contacts = w.contacts) : w'.calls = w.calls := by
  unfold calls; rw [hc]

theorem mutations_of_contacts_eq (hc : w'.contacts = w.contacts) : w'.mutations = w.mutations := by
  unfold mutations; rw [calls_of_contacts_eq hc]

theorem calls_of_contacts_cons {t : Nat} {k : Contact} (hc : w'.contacts = (t, k) :: w.contacts) :
    w'.calls = w.calls ++ (k.request?.map fun r => (t, r)).toList := by
  unfold calls
  rw [hc, List.reverse_cons, List.filterMap_append]
  cases k <;> rfl

theorem mutations_of_contacts_cons {t : Nat} {r : Request}
    (hc : w'.contacts = (t, .call r) :: w.contacts) :
    w'.mutations = w.mutations ++ if r.isMutation then [(t, r)] else [] := by
  unfold mutations
  rw [calls_of_contacts_cons hc, List.filter_append]
  cases hr : r.isMutation <;> simp [Contact.request?, hr]

end World

namespace Backend

variable (b : Backend σ) (cancelAt : Option Nat)

/-! ### One question -/

theorem run_clock (next : Nat → Plan α) (w : World σ) :
    (Program.ask .clock next).run (b.handler cancelAt) w =
      (next w.now).run (b.handler cancelAt) w := rfl

theorem run_count (m : Measure) (next : Unit → Plan α) (w : World σ) :
    (Program.ask (.count m) next).run (b.handler cancelAt) w =
      (next ()).run (b.handler cancelAt) (w.measure m) := rfl

theorem contacts_firstOf {β : Type} (w : World σ) (deadline : Option Nat)
    (comes : Option (Nat × β)) : (firstOf w cancelAt deadline comes).state.contacts = w.contacts := by
  rcases state_firstOf w cancelAt deadline comes with h | ⟨t, h⟩
  · rw [h]
  · rw [h]
    rfl

theorem state_state_firstOf {β : Type} (w : World σ) (deadline : Option Nat)
    (comes : Option (Nat × β)) : (firstOf w cancelAt deadline comes).state.state = w.state := by
  rcases state_firstOf w cancelAt deadline comes with h | ⟨t, h⟩
  · rw [h]
  · rw [h]
    rfl

theorem contacts_seeThrough (c : Contact) (reply : σ → Response α × σ) (w : World σ) :
    (seeThrough c reply w).state.contacts = (w.now, c) :: w.contacts := by
  unfold seeThrough
  cases reply w.state with | _ response s => cases response <;> rfl

theorem state_seeThrough (c : Contact) (reply : σ → Response α × σ) (w : World σ) :
    (seeThrough c reply w).state.state = (reply w.state).2 := by
  unfold seeThrough
  cases reply w.state with | _ response s => cases response <;> rfl

theorem contacts_noticing {β : Type} (w : World σ) (out : Program.Outcome (World σ) (Waited β)) :
    (b.noticing w out).state.contacts = out.state.contacts := by
  cases out <;> rfl

theorem noticing_cancelled {β : Type} (w w' : World σ) :
    b.noticing (α := β) w (.answered .cancelled w') =
      .answered .cancelled { w' with state := b.wait (w'.now - w.now) w'.state } := by
  simp only [noticing, ite_self]

/-- A call with an early end reaches the backend, or it changes nothing. -/
theorem waitFor_effect (deadline : Option Nat) (r : Request) (w : World σ) :
    (b.waitFor cancelAt deadline r w).state = w ∨
      (b.waitFor cancelAt deadline r w).state.contacts = (w.now, .call r) :: w.contacts ∧
        (b.waitFor cancelAt deadline r w).state.state = (b.call r w.state).2 := by
  unfold waitFor
  split
  · exact .inl rfl
  · split
    · exact .inl rfl
    · right
      cases b.call r w.state with
      | _ response s =>
        cases response with
        | after ms result => exact ⟨contacts_firstOf _ _ _ _, state_state_firstOf _ _ _ _⟩
        | never =>
          simp only
          split
          · exact ⟨rfl, rfl⟩
          · exact ⟨contacts_firstOf _ _ _ _, state_state_firstOf _ _ _ _⟩

/-- **All that one question can do**: it leaves contacts and state alone, or it lets the backend
notice the time, or it connects, or it makes its call. -/
theorem handler_effect (q : Ask) (w : World σ) :
    ((b.handler cancelAt q w).state.contacts = w.contacts ∧
      ((b.handler cancelAt q w).state.state = w.state ∨
        ∃ ms, (b.handler cancelAt q w).state.state = b.wait ms w.state)) ∨
    (∃ secret, q = .connect secret ∧
      (b.handler cancelAt q w).state.contacts = (w.now, .connect secret) :: w.contacts ∧
      (b.handler cancelAt q w).state.state = (b.connect secret w.state).2) ∨
    ∃ r ∈ q.request?,
      (b.handler cancelAt q w).state.contacts = (w.now, .call r) :: w.contacts ∧
      (b.handler cancelAt q w).state.state = (b.call r w.state).2 := by
  cases q with
  | connect secret =>
    exact .inr (.inl ⟨secret, rfl, contacts_seeThrough _ _ w, state_seeThrough _ _ w⟩)
  | call r =>
    exact .inr (.inr ⟨r, rfl, contacts_seeThrough _ _ w, state_seeThrough _ _ w⟩)
  | abortable r =>
    have hs : (b.handler cancelAt (.abortable r) w).state = (b.waitFor cancelAt none r w).state := by
      simp only [handler]
      cases b.waitFor cancelAt none r w <;> rfl
    rw [hs]
    rcases b.waitFor_effect cancelAt none r w with h | h
    · rw [h]
      exact .inl ⟨rfl, .inl rfl⟩
    · exact .inr (.inr ⟨r, rfl, h⟩)
  | bounded r deadline =>
    simp only [handler]
    rcases b.waitFor_effect cancelAt (some deadline) r w with h | h
    · rw [h]
      exact .inl ⟨rfl, .inl rfl⟩
    · exact .inr (.inr ⟨r, rfl, h⟩)
  | sleep wake deadline =>
    simp only [handler]
    split
    · exact .inl ⟨rfl, .inl rfl⟩
    · have hc := contacts_firstOf cancelAt w (some deadline) (some (wake, ()))
      have hs := state_state_firstOf cancelAt w (some deadline) (some (wake, ()))
      cases hf : firstOf w cancelAt (some deadline) (some (wake, ())) with
      | answered a w' =>
        rw [hf] at hc hs
        refine .inl ⟨hc, .inr ⟨w'.now - w.now, ?_⟩⟩
        rw [← hs]
        rfl
      | stuck w' =>
        rw [hf] at hc hs
        exact .inl ⟨hc, .inl hs⟩
  | cancelled => exact .inl ⟨rfl, .inl rfl⟩
  | clock => exact .inl ⟨rfl, .inl rfl⟩
  | count m => exact .inl ⟨rfl, .inl rfl⟩

theorem waitFor_eq_came {deadline : Option Nat} {r : Request} {w w' : World σ}
    {reply : Except ServiceError r.Reply}
    (h : b.waitFor cancelAt deadline r w = .answered (.came reply) w') :
    ∃ ms, b.call r w.state = (.after ms reply, w'.state) ∧ w'.now = w.now + ms := by
  unfold waitFor at h
  split at h
  · cases h
  · split at h
    · cases h
    · cases hc : b.call r w.state with
      | mk response s =>
        rw [hc] at h
        cases response with
        | after ms result =>
          dsimp only at h
          obtain ⟨t, ht, rfl⟩ := comes_of_firstOf h
          cases ht
          exact ⟨ms, rfl, Nat.max_eq_right (Nat.le_add_right _ _)⟩
        | never =>
          dsimp only at h
          split at h
          · cases h
          · obtain ⟨t, ht, -⟩ := comes_of_firstOf h
            cases ht

theorem handler_abortable_eq_some {r : Request} {w w' : World σ}
    {reply : Except ServiceError r.Reply}
    (h : b.handler cancelAt (.abortable r) w = .answered (some reply) w') :
    ∃ ms, b.call r w.state = (.after ms reply, w'.state) ∧ w'.now = w.now + ms := by
  simp only [handler] at h
  cases hw : b.waitFor cancelAt none r w with
  | stuck w₁ =>
    rw [hw] at h
    cases h
  | answered a w₁ =>
    rw [hw] at h
    cases a with
    | came reply' =>
      cases h
      exact b.waitFor_eq_came cancelAt hw
    | cancelled => cases h
    | late => cases h

theorem handler_abortable_of_after {r : Request} {w : World σ} {ms : Nat}
    {reply : Except ServiceError r.Reply} {s : σ} (hi : b.interrupted w.state = false)
    (hc : b.call r w.state = (.after ms reply, s)) :
    ∃ w', b.handler none (.abortable r) w = .answered (some reply) w' ∧ w'.state = s := by
  have hn : b.isCancelled none w = false := hi
  simp only [handler, waitFor, hn, hc]
  exact ⟨_, rfl, rfl⟩

/-- **An answer that comes before the cancellation** is not cut short. -/
theorem handler_abortable_of_inTime {r : Request} {w w' : World σ}
    {reply : Except ServiceError r.Reply}
    (h : b.handler none (.abortable r) w = .answered (some reply) w')
    (hc : ∀ c ∈ cancelAt, w'.now < c) :
    b.handler cancelAt (.abortable r) w = .answered (some reply) w' := by
  obtain ⟨ms, hcall, hnow⟩ := b.handler_abortable_eq_some none h
  have hnone : b.isCancelled none w = false := by
    refine Bool.eq_false_iff.mpr fun hi => ?_
    simp only [handler, waitFor, hi] at h
    cases h
  have hopen : b.isCancelled cancelAt w = false := by
    cases cancelAt with
    | none => exact hnone
    | some c =>
      have hlt := hc c rfl
      unfold isCancelled at hnone ⊢
      rw [Option.any_some, decide_eq_false (by omega)]
      exact hnone
  simp only [handler, waitFor, hnone, hopen, hcall, Bool.false_eq_true, if_false,
    Option.any_none] at h ⊢
  rw [firstOf_eq_came rfl ?never ?endless] at h
  case never => nofun
  case endless => nofun
  rw [firstOf_eq_came rfl ?later ?endless]
  case later =>
    intro c hmem
    have hlt := hc c hmem
    dsimp only
    omega
  case endless => nofun
  exact h

theorem handler_bounded_of_after {r : Request} {w : World σ} {ms deadline : Nat}
    {reply : Except ServiceError r.Reply} {s : σ} (hi : b.interrupted w.state = false)
    (hd : w.now + ms < deadline) (hc : b.call r w.state = (.after ms reply, s)) :
    ∃ w', b.handler none (.bounded r deadline) w = .answered (.came reply) w' ∧ w'.state = s ∧
      w'.now = w.now + ms := by
  have hn : b.isCancelled none w = false := hi
  have hlate : (some deadline).any (fun d => decide (d ≤ w.now)) = false := by
    simp only [Option.any_some, decide_eq_false_iff_not]
    omega
  simp only [handler, waitFor, hn, hlate, hc, Bool.false_eq_true, if_false]
  refine ⟨_, firstOf_eq_came (Option.mem_some_self _) nofun fun d h => ?_, rfl,
    Nat.max_eq_right (Nat.le_add_right _ _)⟩
  cases h
  dsimp only
  omega

theorem handler_sleep_of_lt {w : World σ} {planned deadline : Nat}
    (hi : ∀ s, b.interrupted s = false) (hnow : w.now ≤ planned) (hd : planned < deadline) :
    ∃ w', b.handler none (.sleep planned deadline) w = .answered (.came ()) w' ∧
      w'.now = planned := by
  have hn : b.isCancelled none w = false := hi w.state
  have hf : firstOf w none (some deadline) (some (planned, ())) =
      .answered (.came ()) (w.advance planned) := by
    refine firstOf_eq_came (Option.mem_some_self _) nofun fun d h => ?_
    cases h
    dsimp only
    omega
  simp only [handler, hn, hf, noticing, hi, Bool.false_eq_true, if_false]
  exact ⟨_, rfl, Nat.max_eq_right hnow⟩

theorem handler_sleep_of_le {w : World σ} {planned deadline : Nat}
    (hi : ∀ s, b.interrupted s = false) (hnow : w.now ≤ deadline) (hd : deadline ≤ planned) :
    ∃ w', b.handler none (.sleep planned deadline) w = .answered .late w' ∧
      w'.now = deadline := by
  have hn : b.isCancelled none w = false := hi w.state
  have hf : firstOf w none (some deadline) (some (planned, ())) =
      .answered .late (w.advance deadline) := by
    refine firstOf_eq_late (Option.mem_some_self _) nofun fun x h => ?_
    cases h
    dsimp only
    omega
  simp only [handler, hn, hf, noticing, hi, Bool.false_eq_true, if_false]
  exact ⟨_, rfl, Nat.max_eq_right hnow⟩

/-- What a backend keeps of its state, as long as all calls are of some kind. -/
structure Keeps (b : Backend σ) (P : Request → Prop) (I : σ → Prop) : Prop where
  connect : ∀ secret s, I s → I (b.connect secret s).2
  call : ∀ r s, P r → I s → I (b.call r s).2
  wait : ∀ ms s, I s → I (b.wait ms s)

end Backend

/-! ### Questions of some kind -/

namespace Program.Leads

variable {b : Backend σ} {cancelAt : Option Nat} {P : Request → Prop} {w w' : World σ}

theorem mutations_eq (hl : Leads (b.handler cancelAt) (Ask.Calls Request.Reads) w w') :
    w'.mutations = w.mutations := by
  refine hl.keeps (I := fun v => v.mutations = w.mutations) (fun q v hq hv => ?_) rfl
  rw [← hv]
  rcases b.handler_effect cancelAt q v with ⟨hc, -⟩ | ⟨secret, -, hc, -⟩ | ⟨r, hr, hc, -⟩
  · exact World.mutations_of_contacts_eq hc
  · unfold World.mutations
    rw [World.calls_of_contacts_cons hc]
    simp [Contact.request?]
  · have hreads : r.isMutation = false := hq r hr
    rw [World.mutations_of_contacts_cons hc, hreads]
    simp

theorem calls_eq (hl : Leads (b.handler cancelAt) (Ask.Calls fun _ => False) w w') :
    w'.calls = w.calls := by
  refine hl.keeps (I := fun v => v.calls = w.calls) (fun q v hq hv => ?_) rfl
  rw [← hv]
  rcases b.handler_effect cancelAt q v with ⟨hc, -⟩ | ⟨secret, -, hc, -⟩ | ⟨r, hr, -⟩
  · exact World.calls_of_contacts_eq hc
  · rw [World.calls_of_contacts_cons hc]
    simp [Contact.request?]
  · exact absurd (hq r hr) id

theorem calls_append (hl : Leads (b.handler cancelAt) (Ask.Calls P) w w') :
    ∃ later, w'.calls = w.calls ++ later := by
  refine hl.keeps (I := fun v => ∃ later, v.calls = w.calls ++ later) (fun q v _ hv => ?_)
    ⟨[], (List.append_nil _).symm⟩
  obtain ⟨later, hv⟩ := hv
  rcases b.handler_effect cancelAt q v with ⟨hc, -⟩ | ⟨secret, -, hc, -⟩ | ⟨r, hr, hc, -⟩
  · exact ⟨later, by rw [World.calls_of_contacts_eq hc, hv]⟩
  · exact ⟨_, by rw [World.calls_of_contacts_cons hc, hv, List.append_assoc]⟩
  · exact ⟨_, by rw [World.calls_of_contacts_cons hc, hv, List.append_assoc]⟩

/-- **What the backend keeps is kept.** -/
theorem keeps_state {I : σ → Prop} (hb : b.Keeps P I)
    (hl : Leads (b.handler cancelAt) (Ask.Calls P) w w') (hw : I w.state) : I w'.state := by
  refine hl.keeps (I := fun v => I v.state) (fun q v hq hv => ?_) hw
  rcases b.handler_effect cancelAt q v with ⟨-, hs | ⟨ms, hs⟩⟩ | ⟨secret, -, -, hs⟩ | ⟨r, hr, -, hs⟩
  · rw [hs]; exact hv
  · rw [hs]; exact hb.wait ms _ hv
  · rw [hs]; exact hb.connect secret _ hv
  · rw [hs]; exact hb.call r _ (hq r hr) hv

end Program.Leads

end GceMachines
