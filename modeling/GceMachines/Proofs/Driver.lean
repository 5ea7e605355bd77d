import GceMachines.Driver
import GceMachines.Proofs.Program.Runs
import GceMachines.Lifecycle.Clock

/-!
# Runs of the driver

A call of the driver is a lifecycle call behind the gate. A text that does not pass asks for
nothing; otherwise the call runs as the lifecycle call does, and its failures are put into words.

* `told`: what the orchestrator is told of a result.
* `run_during_iff`, `run_gated_iff`: the runs of the driver's calls.
* `run_create_eq_ok`: a creation that succeeds.
-/

namespace GceMachines.Driver

open Lifecycle

variable {σ α β : Type} {b : Backend σ} {cancelAt : Option Nat} {activity : String}
  {text : List UInt8} {secret : Secret} {f : α → β} {w w' : World σ} {d : Except DriverError β}

/-- What the orchestrator is told of a result. -/
def told (activity : String) (f : α → β) (r : Except MachineError α) : Except DriverError β :=
  (r.map f).mapError (.ofCause activity)

theorem run_during_iff {p : Plan (Except MachineError α)} :
    b.run cancelAt (during activity p f) w = .answered d w' ↔
      ∃ r, b.run cancelAt p w = .answered r w' ∧ d = told activity f r := by
  unfold Backend.run during
  rw [Program.run_bind_eq_answered]
  constructor
  · rintro ⟨r, w₁, hp, h⟩
    cases r <;> cases h <;> exact ⟨_, hp, rfl⟩
  · rintro ⟨r, hp, rfl⟩
    refine ⟨r, w', hp, ?_⟩
    cases r <;> rfl

/-- **The runs of a call behind the gate.** -/
theorem run_gated_iff {p : ProviderSpec → Plan (Except MachineError α)} :
    b.run cancelAt (gated activity text secret p f) w = .answered d w' ↔
      (∃ e, Admission.accept text secret = .error e ∧ d = .error (.ofCause activity e) ∧ w' = w) ∨
      ∃ spec r, Admission.accept text secret = .ok spec ∧
        b.run cancelAt (p spec) w = .answered r w' ∧ d = told activity f r := by
  unfold gated
  cases ha : Admission.accept text secret with
  | error e =>
    constructor
    · intro h
      cases h
      exact .inl ⟨e, rfl, rfl, rfl⟩
    · rintro (⟨e', he, rfl, rfl⟩ | ⟨spec, r, h, -⟩)
      · cases he
        rfl
      · cases h
  | ok spec =>
    dsimp only
    rw [run_during_iff]
    constructor
    · rintro ⟨r, hp, rfl⟩
      exact .inr ⟨spec, r, rfl, hp, rfl⟩
    · rintro (⟨e, h, -⟩ | ⟨spec', r, hs, hp, rfl⟩)
      · cases h
      · cases hs
        exact ⟨r, hp, rfl⟩

theorem told_eq_ok {r : Except MachineError α} {c : β} (h : .ok c = told activity f r) :
    ∃ a, r = .ok a ∧ c = f a := by
  cases r with
  | error e => cases h
  | ok a =>
    cases h
    exact ⟨a, rfl, rfl⟩

/-- **A creation that succeeds** is one of a specification that passes the gate, and tells the id
that it gives. -/
theorem run_create_eq_ok {limits : Limits} {name : String} {response : MachineResponse} :
    b.run cancelAt (create limits name text secret) w = .answered (.ok response) w' ↔
      ∃ spec id, Admission.accept text secret = .ok spec ∧
        b.run cancelAt (Lifecycle.create limits name spec secret) w = .answered (.ok id) w' ∧
        response = ⟨id, name⟩ := by
  unfold create
  rw [run_gated_iff]
  constructor
  · rintro (⟨e, -, h, -⟩ | ⟨spec, r, ha, hrun, htold⟩)
    · cases h
    · obtain ⟨id, rfl, rfl⟩ := told_eq_ok htold
      exact ⟨spec, id, ha, hrun, rfl⟩
  · rintro ⟨spec, id, ha, hrun, rfl⟩
    exact .inr ⟨spec, _, ha, hrun, rfl⟩

end GceMachines.Driver
