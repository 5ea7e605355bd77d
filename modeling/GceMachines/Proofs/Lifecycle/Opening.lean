import GceMachines.Proofs.Lifecycle.Entering

/-!
# How a lifecycle call opens

A lifecycle call that can go on at all connects before it does anything else, and never again. It
fails as the connection fails, and a connection that never comes is waited for. What a secret or an
id rules out is told before that, and nothing was asked of the backend then.

* `Opens`, `RuledOut`: a call that opens with a connection, and one that cannot go on.
* `Starts`: the one or the other.
* `starts_create`, `starts_delete`, `starts_status`, `starts_list`, `starts_describe`: the calls.
-/

namespace GceMachines.Lifecycle

variable {α : Type} {secret : Secret} {project : String} {call : LifecycleCall}

/-- **A call that opens with a connection**, whatever the backend is. -/
structure Opens (secret : Secret) (p : Plan (Except MachineError α)) : Prop where
  stuck : ∀ {σ : Type} (b : Backend σ) (cancelAt : Option Nat) {w w₁ : World σ},
    b.handler cancelAt (.connect secret) w = .stuck w₁ → b.run cancelAt p w = .stuck w₁
  refused : ∀ {σ : Type} (b : Backend σ) (cancelAt : Option Nat) {w w₁ : World σ}
    {e : ServiceError}, b.handler cancelAt (.connect secret) w = .answered (.error e) w₁ →
      ∃ w', b.run cancelAt p w = .answered (.error e.toMachineError) w' ∧ w'.state = w₁.state
  connected : ∃ q : Plan (Except MachineError α), (q.Within fun _ => True) ∧
    ∀ {σ : Type} (b : Backend σ) (cancelAt : Option Nat) {w w₁ : World σ},
      b.handler cancelAt (.connect secret) w = .answered (.ok ()) w₁ →
        b.run cancelAt p w = b.run cancelAt q w₁

/-- **A call that cannot go on**: it fails at once, and no more than that is counted. -/
def RuledOut (e : MachineError) (p : Plan (Except MachineError α)) : Prop :=
  ∃ ms : List Measure, ∀ {σ : Type} (b : Backend σ) (cancelAt : Option Nat) (w : World σ),
    b.run cancelAt p w = .answered (.error e) { w with measures := ms ++ w.measures }

/-! ### Behind a connection -/

section
variable {σ : Type} {b : Backend σ} {cancelAt : Option Nat} {w w₁ : World σ}
  {p : Plan (Except MachineError α)}

theorem run_connecting_of_refused {e : ServiceError}
    (h : b.handler cancelAt (.connect secret) w = .answered (.error e) w₁) :
    ((connect secret).bindOk fun _ => p).run (b.handler cancelAt) w =
      .answered (.error e.toMachineError) w₁ :=
  Program.run_ask_of_answered _ h

theorem run_connecting_of_connected
    (h : b.handler cancelAt (.connect secret) w = .answered (.ok ()) w₁) :
    ((connect secret).bindOk fun _ => p).run (b.handler cancelAt) w =
      p.run (b.handler cancelAt) w₁ :=
  Program.run_ask_of_answered _ h

end

variable {p : Plan (Except MachineError α)}

theorem opens_connecting (hp : p.Within fun _ => True) :
    Opens secret ((connect secret).bindOk fun _ => p) where
  stuck _ _ _ _ h := Program.run_ask_of_stuck _ h
  refused _ _ _ w₁ _ h := ⟨w₁, run_connecting_of_refused h, rfl⟩
  connected := ⟨p, hp, fun _ _ _ _ h => run_connecting_of_connected h⟩

theorem opens_counted (call : LifecycleCall) (hp : p.Within fun _ => True) :
    Opens secret (counted call ((connect secret).bindOk fun _ => p)) where
  stuck b cancelAt w w₁ h :=
    Program.run_bind_of_stuck _ ((opens_connecting hp).stuck b cancelAt h)
  refused b cancelAt w w₁ e h := by
    obtain ⟨w', hrun, hw⟩ := (opens_connecting hp).refused b cancelAt h
    exact ⟨_, run_counted_iff.mpr ⟨w', hrun, rfl⟩, hw⟩
  connected := ⟨_, Within.counted call hp, fun _ _ _ _ h =>
    run_counted_congr (run_connecting_of_connected h)⟩

/-! ### Calls that enter a project -/

variable {f : String → Plan (Except MachineError α)}

theorem bindOk_enter (hn : secret.project = .ok project) :
    (enter secret).bindOk f = (connect secret).bindOk fun _ => f project := by
  unfold enter
  rw [hn]
  refine congrArg (Program.ask _) (funext fun r => ?_)
  cases r <;> rfl

theorem opens_entering (hn : secret.project = .ok project)
    (hf : (f project).Within fun _ => True) :
    Opens secret (counted call ((enter secret).bindOk f)) := by
  rw [bindOk_enter hn]
  exact opens_counted call hf

theorem ruledOut_entering {e : MachineError} (hn : secret.project = .error e) :
    RuledOut e (counted call ((enter secret).bindOk f)) := by
  unfold enter
  rw [hn]
  exact ⟨[.finished call (some e.code)], fun _ _ _ => rfl⟩

/-! ### The calls -/

/-- **How a call goes on**: it opens with a connection, or it is ruled out for a reason. -/
def Starts (secret : Secret) (reason? : Option MachineError) (p : Plan (Except MachineError α)) :
    Prop :=
  match reason? with
  | none => Opens secret p
  | some e => RuledOut e p

/-- Why a secret names no project. -/
def projectFault? (secret : Secret) : Option MachineError :=
  match secret.project with
  | .ok _ => none
  | .error e => some e

/-- Why an id names no machine. -/
def idFault? (id : String) : Option MachineError :=
  match MachineId.partsOf id with
  | .ok _ => none
  | .error e => some e

theorem starts_entering (hf : ∀ project, (f project).Within fun _ => True) :
    Starts secret (projectFault? secret) (counted call ((enter secret).bindOk f)) := by
  unfold projectFault?
  cases hn : secret.project with
  | ok project => exact opens_entering hn (hf project)
  | error e => exact ruledOut_entering hn

variable {limits : Limits} {name : String} {spec : ProviderSpec}

theorem starts_create :
    Starts secret (projectFault? secret) (create limits name spec secret) := by
  refine starts_entering fun project => ⟨within_of_request?_eq_some rfl trivial, fun r => ?_⟩
  match r with
  | .error e => trivial
  | .ok op => exact Within.finish trivial limits

theorem starts_delete :
    Starts secret (projectFault? secret) (delete limits name spec secret) := by
  refine starts_entering fun project => (Within.discover fun _ => trivial).bindOk fun found => ?_
  split
  · trivial
  · refine ⟨within_of_request?_eq_some rfl trivial, fun r => ?_⟩
    match r with
    | .error e =>
      dsimp only
      split <;> trivial
    | .ok op => exact Within.finish trivial limits

theorem starts_status :
    Starts secret (projectFault? secret) (status limits name spec secret) := by
  refine starts_entering fun project => (Within.discover fun _ => trivial).bindOk fun found => ?_
  split <;> trivial

theorem starts_list : Starts secret (projectFault? secret) (list limits spec secret) :=
  starts_entering fun _ => Within.discover fun _ => trivial

theorem starts_describe (id : String) : Starts secret (idFault? id) (describe id secret) := by
  unfold idFault? MachineId.partsOf describe
  cases MachineId.parse? id with
  | none => exact ⟨[], fun _ _ _ => rfl⟩
  | some m =>
    refine opens_connecting ⟨within_of_request?_eq_some rfl trivial, fun r => ?_⟩
    match r with
    | .error e => trivial
    | .ok i => trivial

end GceMachines.Lifecycle
