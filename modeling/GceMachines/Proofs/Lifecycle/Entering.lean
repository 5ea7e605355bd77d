import GceMachines.Proofs.Lifecycle.Calls

/-!
# Around a lifecycle call

Every lifecycle call but one enters its project first and counts how it ended last. What happens
in between decides the result: counting changes no result and asks for nothing, and a project is
entered exactly if the secret names it and the connection is accepted.

* `run_counted_iff`, `leads_counted`: counting.
* `Entered`, `run_enter_eq_ok`: entering.
* `seeking`, `run_seeking_of_found`: calls that look for a machine first.
-/

namespace GceMachines.Lifecycle

variable {σ α : Type} {b : Backend σ} {cancelAt : Option Nat} {secret : Secret} {project : String}
  {w w₁ w' : World σ} {call : LifecycleCall} {P : Request → Prop}

/-! ### Counting how a call ends -/

/-- The failure of a result, as it is counted. -/
def failure? : Except MachineError α → Option ErrorCode
  | .ok _ => none
  | .error e => some e.code

/-- **A counted call** ends as without the count. -/
theorem run_counted_iff {p : Plan (Except MachineError α)} {r : Except MachineError α} :
    (counted call p).run (b.handler cancelAt) w = .answered r w' ↔
      ∃ w₁, p.run (b.handler cancelAt) w = .answered r w₁ ∧
        w' = w₁.measure (.finished call (failure? r)) := by
  unfold counted
  rw [Program.run_bind_eq_answered]
  constructor
  · rintro ⟨r', w₁, hp, h⟩
    cases h
    refine ⟨w₁, hp, ?_⟩
    cases r <;> rfl
  · rintro ⟨w₁, hp, rfl⟩
    refine ⟨r, w₁, hp, ?_⟩
    cases r <;> rfl

theorem of_run_counted {p : Plan (Except MachineError α)} {r : Except MachineError α}
    (h : (counted call p).run (b.handler cancelAt) w = .answered r w') :
    ∃ w₁, p.run (b.handler cancelAt) w = .answered r w₁ := by
  obtain ⟨w₁, hp, -⟩ := run_counted_iff.mp h
  exact ⟨w₁, hp⟩

theorem run_counted_of_answered {p : Plan (Except MachineError α)} {r : Except MachineError α}
    (h : p.run (b.handler cancelAt) w = .answered r w₁) :
    ∃ w', (counted call p).run (b.handler cancelAt) w = .answered r w' :=
  ⟨_, run_counted_iff.mpr ⟨w₁, h, rfl⟩⟩

theorem run_counted_congr {p q : Plan (Except MachineError α)}
    (h : p.run (b.handler cancelAt) w = q.run (b.handler cancelAt) w₁) :
    (counted call p).run (b.handler cancelAt) w = (counted call q).run (b.handler cancelAt) w₁ := by
  unfold counted
  rw [Program.run_bind, Program.run_bind, h]

theorem leads_counted (call : LifecycleCall) (p : Plan (Except MachineError α))
    (w : World σ) :
    Program.Leads (b.handler cancelAt) (Ask.Calls P) (p.run (b.handler cancelAt) w).state
      ((counted call p).run (b.handler cancelAt) w).state := by
  unfold counted
  cases hp : p.run (b.handler cancelAt) w with
  | stuck w' =>
    rw [Program.run_bind_of_stuck _ hp]
    exact .refl
  | answered r w' =>
    rw [Program.run_bind_of_answered _ hp]
    refine Program.Asks.leads ?_ w'
    exact ⟨calls_of_request?_eq_none rfl, fun _ => trivial⟩

/-! ### Entering a project -/

/-- Entering a project succeeds: the secret names it and the connection is accepted. -/
structure Entered (b : Backend σ) (cancelAt : Option Nat) (secret : Secret) (w : World σ)
    (project : String) (w' : World σ) : Prop where
  named : secret.project = .ok project
  connected : b.handler cancelAt (.connect secret) w = .answered (.ok ()) w'

theorem run_connect_eq_ok :
    (connect secret).run (b.handler cancelAt) w = .answered (.ok ()) w' ↔
      b.handler cancelAt (.connect secret) w = .answered (.ok ()) w' := by
  unfold connect
  cases ha : b.handler cancelAt (.connect secret) w with
  | stuck w₁ =>
    rw [Program.run_ask_of_stuck _ ha]
    simp
  | answered r w₁ =>
    rw [Program.run_ask_of_answered _ ha]
    cases r with
    | ok a =>
      constructor
      · intro h
        cases h
        rfl
      · intro h
        cases h
        rfl
    | error e =>
      constructor
      · intro h
        cases h
      · intro h
        cases h

theorem run_enter_eq_ok :
    (enter secret).run (b.handler cancelAt) w = .answered (.ok project) w' ↔
      Entered b cancelAt secret w project w' := by
  unfold enter
  cases hp : secret.project with
  | error e =>
    constructor
    · intro h
      cases h
    · rintro ⟨h, -⟩
      rw [hp] at h
      cases h
  | ok p =>
    dsimp only
    rw [Program.run_bindOk_eq_ok]
    constructor
    · rintro ⟨_, w₁, hc, h⟩
      cases h
      exact ⟨hp, run_connect_eq_ok.mp hc⟩
    · rintro ⟨hn, hc⟩
      rw [hp] at hn
      cases hn
      exact ⟨(), w', run_connect_eq_ok.mpr hc, rfl⟩

/-! ### Looking for a machine -/

/-- A call that looks for a machine and goes on with what it has found. -/
def seeking (call : LifecycleCall) (pages : Nat) (name : String) (spec : ProviderSpec)
    (secret : Secret) (next : String → Discovered → Plan (Except MachineError α)) :
    Plan (Except MachineError α) :=
  counted call <| (enter secret).bindOk fun project =>
    (discover pages project spec.zone spec.tags (some name)).bindOk (next project)

theorem run_seeking_of_found {pages : Nat} {name : String} {spec : ProviderSpec}
    {next : String → Discovered → Plan (Except MachineError α)} {found : Discovered}
    (hen : Entered b cancelAt secret w project w₁)
    (hd : (discover pages project spec.zone spec.tags (some name)).run (b.handler cancelAt) w₁ =
      .answered (.ok found) w') :
    (seeking call pages name spec secret next).run (b.handler cancelAt) w =
      (counted call (next project found)).run (b.handler cancelAt) w' := by
  refine run_counted_congr ?_
  rw [Program.run_bindOk_of_ok _ (run_enter_eq_ok.mpr hen), Program.run_bindOk_of_ok _ hd]

end GceMachines.Lifecycle
