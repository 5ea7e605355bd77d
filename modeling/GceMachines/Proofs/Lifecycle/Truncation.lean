import GceMachines.Lifecycle.Machines
import GceMachines.Proofs.Lifecycle.Questions

/-!
# What a cancellation does to a run

A plan learns that it is cancelled from the answers of some of its questions only, and such an
answer is the last one it asks for: it counts how it ended, and reports the cancellation. Up to
there every answer is that of a run that nobody cancels. So a cancellation can end a run early, and
nothing else: it changes no call, no instant and no result of what goes on.

* `Plan.Yields`: a plan that gives in to every answer that tells of a cancellation.
* `Backend.handler_cut`: a cancellation leaves an answer as it is, or is told by it.
* `Plan.Yields.truncates`: a run of such a plan is the run without the cancellation, or cut short.
-/

namespace GceMachines

variable {σ α β : Type}

/-! ### Plans that yield -/

/-- The answers that tell of a cancellation. -/
def Ask.Tells : (q : Ask) → q.Answer → Prop
  | .abortable _, a => a = none
  | .bounded _ _, a => a = .cancelled
  | .sleep _ _, a => a = .cancelled
  | .cancelled, a => a = true
  | _, _ => False

namespace Plan

/-- A plan that asks for nothing any more and ends, having counted, with a value of some kind. -/
inductive Stops (C : α → Prop) : Plan α → Prop
  | done {a : α} (ha : C a) : Stops C (.done a)
  | count {m : Measure} {next : Unit → Plan α} (hn : Stops C (next ())) :
      Stops C (.ask (.count m) next)

/-- **A plan that yields**: every answer that tells of a cancellation ends it with a value of some
kind. -/
def Yields (C : α → Prop) : Plan α → Prop
  | .done _ => True
  | .ask q next => (∀ a, Yields C (next a)) ∧ ∀ a, q.Tells a → Stops C (next a)
  | .unfinished => True

variable {C : α → Prop} {D : β → Prop}

theorem Stops.bind {p : Plan α} {f : α → Plan β} (hp : Stops C p)
    (hf : ∀ a, C a → Stops D (f a)) : Stops D (p.bind f) := by
  induction hp with
  | done ha => exact hf _ ha
  | count _ ih => exact .count ih

namespace Yields

theorem ask {q : Ask} {next : q.Answer → Plan α} (hq : ∀ a, ¬ q.Tells a)
    (hn : ∀ a, (next a).Yields C) : Yields C (.ask q next) :=
  ⟨hn, fun a ha => absurd ha (hq a)⟩

theorem bind {f : α → Plan β} (hf : ∀ a, (f a).Yields D) (hC : ∀ a, C a → Stops D (f a)) :
    ∀ {p : Plan α}, p.Yields C → Yields D (p.bind f)
  | .done a, _ => hf a
  | .ask _ _, hp => ⟨fun a => bind hf hC (hp.1 a), fun a ha => (hp.2 a ha).bind hC⟩
  | .unfinished, _ => trivial

end Yields

/-- A result that reports a cancellation. -/
def Cancelled (r : Except MachineError α) : Prop := ∃ operation, r = .error (.cancelled operation)

theorem stops_cancelled (operation : String) :
    Stops Cancelled (fail (α := α) (.cancelled operation)) :=
  .done ⟨operation, rfl⟩

theorem Yields.bindOk {p : Plan (Except MachineError α)} {f : α → Plan (Except MachineError β)}
    (hp : p.Yields Cancelled) (hf : ∀ a, (f a).Yields Cancelled) :
    Yields Cancelled (p.bindOk f) := by
  refine Yields.bind (fun r => ?_) (fun r hr => ?_) hp
  · cases r with
    | ok a => exact hf a
    | error e => trivial
  · obtain ⟨operation, rfl⟩ := hr
    exact stops_cancelled operation

end Plan

/-! ### The lifecycle calls yield -/

namespace Lifecycle

open Plan (Yields Stops Cancelled stops_cancelled)

namespace Yields

theorem counted (call : LifecycleCall) {p : Plan (Except MachineError α)}
    (hp : p.Yields Cancelled) : Yields Cancelled (Lifecycle.counted call p) := by
  unfold Lifecycle.counted
  refine .bind (fun r => ?_) (fun r hr => ?_) hp
  · exact .ask (fun _ => id) fun _ => trivial
  · exact .count (.done hr)

theorem connect (secret : Secret) : (Lifecycle.connect secret).Yields Cancelled :=
  .ask (fun _ => id) fun _ => trivial

theorem enter (secret : Secret) : (Lifecycle.enter secret).Yields Cancelled := by
  unfold Lifecycle.enter
  split
  · trivial
  · exact (connect secret).bindOk fun _ => trivial

theorem walk (s : Search) :
    ∀ (n : Nat) (token : Option String) (found : Discovered),
      (s.walk n token found).Yields Cancelled
  | 0, _, _ => trivial
  | n + 1, token, found => by
    refine ⟨fun a => ?_, ?_⟩
    · match a with
      | none => trivial
      | some (.error e) => trivial
      | some (.ok page) =>
        dsimp only
        split
        · trivial
        · split
          · exact walk s n _ _
          -- behind the last page the plan asks once more whether it is cancelled
          · refine ⟨fun stop => ?_, ?_⟩
            · cases stop <;> trivial
            · rintro _ rfl
              exact stops_cancelled _
    · rintro _ rfl
      exact stops_cancelled _

theorem discover (n : Nat) (project zone : String) (tags : List String) (name : Option String) :
    (Lifecycle.discover n project zone tags name).Yields Cancelled := by
  unfold Lifecycle.discover
  split
  · trivial
  · exact walk _ n _ _

theorem looks (o : Awaited) (cfg : PollConfig) (deadline planned : Nat) :
    (Lifecycle.looks o cfg deadline planned).Yields Cancelled := by
  rw [Lifecycle.looks]
  refine ⟨fun a => ?_, ?_⟩
  · match a with
    | .cancelled => trivial
    | .late => trivial
    | .came () =>
      dsimp only
      split
      · refine .ask (fun _ => id) fun now => .ask (fun _ => id) fun _ => ⟨fun reply => ?_, ?_⟩
        · match reply with
          | .cancelled => trivial
          | .late => trivial
          | .came (.error e) => trivial
          | .came (.ok op) =>
            dsimp only
            split
            · trivial
            · exact looks o cfg deadline _
        · rintro _ rfl
          exact stops_cancelled _
      · trivial
  · rintro _ rfl
    exact stops_cancelled _
termination_by deadline - planned
decreasing_by
  have := lt_nextTick cfg.interval_pos planned now
  omega

theorem awaitOperation (o : Awaited) (cfg : PollConfig) :
    (Lifecycle.awaitOperation o cfg).Yields Cancelled := by
  refine .ask (fun _ => id) fun _ => .bind (fun r => ?_) (fun r hr => ?_) (looks o cfg _ _)
  · exact .ask (fun _ => id) fun _ => trivial
  · exact .count (.done hr)

theorem finish (limits : Limits) (m : MachineId) (op : Operation) :
    (Lifecycle.finish limits m op).Yields Cancelled :=
  (awaitOperation _ limits.poll).bindOk fun _ => trivial

theorem create (limits : Limits) (name : String) (spec : ProviderSpec) (secret : Secret) :
    (Lifecycle.create limits name spec secret).Yields Cancelled := by
  unfold Lifecycle.create
  refine counted _ ((enter secret).bindOk fun project => .ask (fun _ => id) fun r => ?_)
  match r with
  | .error e => trivial
  | .ok op => exact finish limits _ op

theorem delete (limits : Limits) (name : String) (spec : ProviderSpec) (secret : Secret) :
    (Lifecycle.delete limits name spec secret).Yields Cancelled := by
  unfold Lifecycle.delete
  refine counted _ ((enter secret).bindOk fun project => ?_)
  refine (discover limits.pages project spec.zone spec.tags (some name)).bindOk fun found => ?_
  split
  · trivial
  · refine .ask (fun _ => id) fun r => ?_
    match r with
    | .error e => dsimp only; split <;> trivial
    | .ok op => exact finish limits _ op

theorem status (limits : Limits) (name : String) (spec : ProviderSpec) (secret : Secret) :
    (Lifecycle.status limits name spec secret).Yields Cancelled := by
  unfold Lifecycle.status
  refine counted _ ((enter secret).bindOk fun project => ?_)
  refine (discover limits.pages project spec.zone spec.tags (some name)).bindOk fun found => ?_
  split <;> trivial

theorem list (limits : Limits) (spec : ProviderSpec) (secret : Secret) :
    (Lifecycle.list limits spec secret).Yields Cancelled :=
  counted _ ((enter secret).bindOk fun project => discover _ project _ _ _)

end Yields

end Lifecycle

/-! ### What reached the backend stays -/

theorem Program.Leads.contacts_suffix {b : Backend σ} {cancelAt : Option Nat} {P : Ask → Prop}
    {w w' : World σ} (hl : Leads (b.handler cancelAt) P w w') : w.contacts <:+ w'.contacts := by
  refine hl.keeps (I := fun v => w.contacts <:+ v.contacts) (fun q v _ hv => ?_)
    List.suffix_rfl
  rcases b.handler_effect cancelAt q v with ⟨hc, -⟩ | ⟨secret, -, hc, -⟩ | ⟨r, -, hc, -⟩
  · rw [hc]
    exact hv
  · rw [hc]
    exact hv.trans (List.suffix_cons _ _)
  · rw [hc]
    exact hv.trans (List.suffix_cons _ _)

/-- The calls of a world to which less has happened are the first calls. -/
theorem World.calls_prefix {w w' : World σ} (h : w.contacts <:+ w'.contacts) :
    w.calls <+: w'.calls :=
  (List.reverse_prefix.mpr h).filterMap _

/-! ### One answer -/

namespace Backend

variable (b : Backend σ) (c : Nat)

/-- A cancellation leaves the end of some waiting as it is, or it is that end. -/
theorem firstOf_cut (w : World σ) (deadline : Option Nat) (comes : Option (Nat × β)) :
    firstOf w (some c) deadline comes = firstOf w none deadline comes ∨
      firstOf w (some c) deadline comes = .answered .cancelled (w.advance c) := by
  rcases firstOf_cases w (some c) deadline comes with
    ⟨c', ⟨⟩, -, -, h⟩ | ⟨d, hd, -, hx, h⟩ | ⟨x, hx, -, hd, h⟩ | ⟨rfl, rfl, h⟩
  · exact .inr h
  · refine .inl (h.trans (Eq.symm ?_))
    exact firstOf_eq_late hd nofun hx
  · refine .inl (h.trans (Eq.symm ?_))
    exact firstOf_eq_came hx nofun hd
  · exact .inl h

theorem isCancelled_of_lt {w : World σ} (hc : w.now < c) :
    b.isCancelled (some c) w = b.isCancelled none w := by
  unfold isCancelled
  rw [Option.any_some, decide_eq_false (Nat.not_le.mpr hc), Option.any_none]

theorem isCancelled_of_le {w : World σ} (hc : c ≤ w.now) : b.isCancelled (some c) w = true := by
  unfold isCancelled
  rw [Option.any_some, decide_eq_true hc, Bool.true_or]

/-- A world in which the cancellation at `c` has been noticed, and to which no more has happened
than to another one. -/
structure Noticed (c : Nat) (w whole : World σ) : Prop where
  due : c ≤ w.now
  contacts : w.contacts <:+ whole.contacts

theorem waitFor_cut (deadline : Option Nat) (r : Request) (w : World σ) :
    b.waitFor (some c) deadline r w = b.waitFor none deadline r w ∨
      ∃ w', b.waitFor (some c) deadline r w = .answered .cancelled w' ∧
        Noticed c w' (b.waitFor none deadline r w).state := by
  rcases Nat.lt_or_ge w.now c with hlt | hle
  · unfold waitFor
    rw [b.isCancelled_of_lt c hlt]
    split
    · exact .inl rfl
    · split
      · exact .inl rfl
      · cases b.call r w.state with
        | mk response s =>
          -- the call has reached the backend in both runs
          let w₁ : World σ := ⟨w.now, s, (w.now, .call r) :: w.contacts, w.measures⟩
          have hcut (comes : Option (Nat × Except ServiceError r.Reply)) :
              firstOf w₁ (some c) deadline comes = firstOf w₁ none deadline comes ∨
                ∃ w', firstOf w₁ (some c) deadline comes = .answered .cancelled w' ∧
                  Noticed c w' (firstOf w₁ none deadline comes).state := by
            rcases firstOf_cut c w₁ deadline comes with h | h
            · exact .inl h
            · refine .inr ⟨_, h, Nat.le_max_right _ _, ?_⟩
              rw [contacts_firstOf]
              exact List.suffix_rfl
          cases response with
          | after ms result => exact hcut _
          | never =>
            dsimp only
            split
            · exact .inl rfl
            · exact hcut _
  · have hcut : b.waitFor (some c) deadline r w = .answered .cancelled w := by
      unfold waitFor
      rw [b.isCancelled_of_le c hle, if_pos rfl]
    refine .inr ⟨w, hcut, hle, ?_⟩
    rcases b.waitFor_effect none deadline r w with h | ⟨h, -⟩
    · exact ⟨[], (congrArg World.contacts h).symm⟩
    · rw [h]
      exact List.suffix_cons _ _

/-- **A cancellation leaves an answer as it is, or is told by it**, and then nothing more has reached
the backend than without the cancellation. -/
theorem handler_cut (q : Ask) (w : World σ) :
    b.handler (some c) q w = b.handler none q w ∨
      ∃ a w', b.handler (some c) q w = .answered a w' ∧ q.Tells a ∧
        Noticed c w' (b.handler none q w).state := by
  cases q with
  | connect secret => exact .inl rfl
  | call r => exact .inl rfl
  | abortable r =>
    have hstate : (b.handler none (.abortable r) w).state = (b.waitFor none none r w).state := by
      simp only [handler]
      cases b.waitFor none none r w <;> rfl
    rw [hstate]
    simp only [handler]
    rcases b.waitFor_cut c none r w with h | ⟨w', h, hn⟩
    · rw [h]
      exact .inl rfl
    · rw [h]
      exact .inr ⟨none, w', rfl, rfl, hn⟩
  | bounded r deadline =>
    rcases b.waitFor_cut c (some deadline) r w with h | ⟨w', h, hn⟩
    · exact .inl h
    · exact .inr ⟨.cancelled, w', h, rfl, hn⟩
  | sleep wake deadline =>
    rcases Nat.lt_or_ge w.now c with hlt | hle
    · simp only [handler]
      rw [b.isCancelled_of_lt c hlt]
      split
      · exact .inl rfl
      · rcases firstOf_cut c w (some deadline) (some (wake, ())) with h | h
        · rw [h]
          exact .inl rfl
        · rw [h, b.noticing_cancelled]
          refine .inr ⟨.cancelled, _, rfl, rfl, Nat.le_max_right _ _, ?_⟩
          rw [b.contacts_noticing, contacts_firstOf]
          exact List.suffix_rfl
    · refine .inr ⟨.cancelled, w, ?_, rfl, hle, ?_⟩
      · simp only [handler]
        rw [b.isCancelled_of_le c hle, if_pos rfl]
      · exact Program.Leads.contacts_suffix (P := fun _ => True) (.step trivial .refl)
  | cancelled =>
    rcases Nat.lt_or_ge w.now c with hlt | hle
    · simp only [handler]
      rw [b.isCancelled_of_lt c hlt]
      exact .inl rfl
    · simp only [handler]
      rw [b.isCancelled_of_le c hle]
      exact .inr ⟨true, w, rfl, rfl, hle, List.suffix_rfl⟩
  | clock => exact .inl rfl
  | count m => exact .inl rfl

end Backend

/-! ### Whole runs -/

theorem Plan.Stops.run {C : α → Prop} {p : Plan α} (hp : p.Stops C) (b : Backend σ)
    (cancelAt : Option Nat) (w : World σ) :
    ∃ a w', p.run (b.handler cancelAt) w = .answered a w' ∧ C a ∧ w'.now = w.now ∧
      w'.contacts = w.contacts := by
  induction hp generalizing w with
  | done ha => exact ⟨_, w, rfl, ha, rfl, rfl⟩
  | count _ ih => exact ih (w.measure _)

/-- **A run cut short** by a cancellation at `c`, beside the same run without the cancellation: it
is that run, or it has reported the cancellation, not before `c`. Either way what reached the backend
is what reached it first in the other run, at the same instants. -/
structure Truncates (c : Nat) (cut whole : Program.Outcome (World σ) (Except MachineError α)) :
    Prop where
  result : cut = whole ∨
    ∃ operation w, cut = .answered (.error (.cancelled operation)) w ∧ c ≤ w.now
  contacts : cut.state.contacts.reverse <+: whole.state.contacts.reverse
  calls : cut.state.calls <+: whole.state.calls

/-- A run of a plan that yields goes on as if nobody had cancelled it, until it is told. -/
theorem Plan.Yields.run {C : α → Prop} (b : Backend σ) (c : Nat) :
    ∀ {p : Plan α}, p.Yields C → ∀ w : World σ,
      b.run (some c) p w = b.run none p w ∨
        ∃ a w', b.run (some c) p w = .answered a w' ∧ C a ∧
          Backend.Noticed c w' (b.run none p w).state
  | .done _, _, _ => .inl rfl
  | .unfinished, _, _ => .inl rfl
  | .ask q next, hp, w => by
    unfold Backend.run
    rcases b.handler_cut c q w with hq | ⟨a, w₁, hq, ha, hn⟩
    · cases hw : b.handler none q w with
      | stuck w₁ =>
        rw [Program.run_ask_of_stuck _ hw, Program.run_ask_of_stuck _ (hq.trans hw)]
        exact .inl rfl
      | answered a w₁ =>
        rw [Program.run_ask_of_answered _ hw, Program.run_ask_of_answered _ (hq.trans hw)]
        exact Plan.Yields.run b c (hp.1 a) w₁
    · obtain ⟨r, w', hr, hC, hnow, hcontacts⟩ := (hp.2 a ha).run b (some c) w₁
      rw [Program.run_ask_of_answered _ hq]
      refine .inr ⟨r, w', hr, hC, by rw [hnow]; exact hn.due, ?_⟩
      -- the other run goes on from where the first one was told
      have hlater : (b.handler none q w).state.contacts <:+
          ((Program.ask q next).run (b.handler none) w).state.contacts :=
        Program.Leads.contacts_suffix (P := fun _ => True)
          (Program.Asks.leads_of_ask (fun a => .of_forall (fun _ => trivial) (next a)) w)
      rw [hcontacts]
      exact hn.contacts.trans hlater

/-- **A cancellation only truncates** the run of a plan that yields. -/
theorem Plan.Yields.truncates {p : Plan (Except MachineError α)} (hp : p.Yields Plan.Cancelled)
    (b : Backend σ) (c : Nat) (w : World σ) :
    Truncates c (b.run (some c) p w) (b.run none p w) := by
  rcases hp.run b c w with h | ⟨r, w', h, ⟨operation, rfl⟩, hn⟩
  · rw [h]
    exact ⟨.inl rfl, List.prefix_rfl, List.prefix_rfl⟩
  · rw [h]
    exact ⟨.inr ⟨operation, w', rfl, hn.due⟩, List.reverse_prefix.mpr hn.contacts,
      World.calls_prefix hn.contacts⟩

/-- **Cancellation only truncates a run**: for every lifecycle call, whatever the backend answers,
after whatever time or never. A run that is cancelled at `c` ends with the same result at the same
instant in the same world as the run that nobody cancels, or waits for ever as that one does, or it
reports the cancellation, not before `c`; and in each case it has connected and called as that one
has first, with the same arguments at the same instants. -/
theorem Lifecycle.cancellation_truncates (b : Backend σ) (c : Nat) (limits : Lifecycle.Limits)
    (name : String) (spec : ProviderSpec) (secret : Secret) (w : World σ) :
    Truncates c (b.run (some c) (create limits name spec secret) w)
      (b.run none (create limits name spec secret) w) ∧
    Truncates c (b.run (some c) (delete limits name spec secret) w)
      (b.run none (delete limits name spec secret) w) ∧
    Truncates c (b.run (some c) (status limits name spec secret) w)
      (b.run none (status limits name spec secret) w) ∧
    Truncates c (b.run (some c) (list limits spec secret) w)
      (b.run none (list limits spec secret) w) :=
  ⟨(Yields.create limits name spec secret).truncates b c w,
    (Yields.delete limits name spec secret).truncates b c w,
    (Yields.status limits name spec secret).truncates b c w,
    (Yields.list limits spec secret).truncates b c w⟩

end GceMachines
