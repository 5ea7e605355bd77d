import GceMachines.Proofs.Machine.Secret
import GceMachines.Proofs.RoundTrip
import GceMachines.Proofs.Spec.Breaches
import GceMachines.Spec.Admission

/-!
# What passes the gate

A specification passes together with its secret exactly if its text can be read and no rule is
broken. Its zone is then not empty.

* `accept_eq_ok_iff`: the gate.
* `Refused`, `complaints`: what does not pass, and everything that is said against it.
* `accept_eq_error_iff`: the gate refuses nothing else, and says all of that.
* `accept_encode`: a specification that breaks no rule passes as the text that is written for it.
* `accept_of_interchangeable`: secrets of which the same is used pass alike.
* `credentials_of_accept`: a secret that passes has credentials.
* `zone_ne`: what the id of a machine needs of its specification.
-/

namespace GceMachines

namespace Admission

variable {text : List UInt8} {spec : ProviderSpec} {secret : Secret}

theorem check_eq_ok_iff {s : Option Secret} : check spec s = .ok () ↔ violations spec s = [] := by
  unfold check
  split
  · next h => simp [h]
  · next h => exact iff_of_false nofun h

theorem decodeSpec_eq_ok_iff :
    decodeSpec text = .ok spec ↔ ProviderSpec.format.decode text = .ok spec := by
  unfold decodeSpec
  cases ProviderSpec.format.decode text <;> simp

/-- **The gate** lets a specification pass whose text can be read and which breaks no rule. -/
theorem accept_eq_ok_iff : accept text secret = .ok spec ↔
    decodeSpec text = .ok spec ∧ violations spec (some secret) = [] := by
  unfold accept
  cases hd : decodeSpec text with
  | error e => simp [Except.bind]
  | ok s =>
    rw [← check_eq_ok_iff]
    dsimp only [Except.bind]
    cases hc : check s (some secret) with
    | error e =>
      refine iff_of_false nofun ?_
      rintro ⟨hs, hok⟩
      cases hs
      rw [hc] at hok
      cases hok
    | ok u =>
      constructor
      · intro h
        cases h
        exact ⟨rfl, hc⟩
      · rintro ⟨hs, -⟩
        cases hs
        rfl

/-- **What does not pass**: a text that holds no specification, or one that breaks a rule. -/
def Refused (text : List UInt8) (secret : Secret) : Prop :=
  ∀ spec, decodeSpec text = .ok spec → violations spec (some secret) ≠ []

/-- **What is said against a text and a secret**: why the text cannot be read, or the rules that
are broken, in their order. -/
def complaints (text : List UInt8) (secret : Secret) : List String :=
  match ProviderSpec.format.decode text with
  | .error f => ["decode provider spec: " ++ f.message]
  | .ok spec => (violations spec (some secret)).map Violation.message

theorem refused_iff : Refused text secret ↔ complaints text secret ≠ [] := by
  unfold Refused complaints decodeSpec
  cases ProviderSpec.format.decode text with
  | error f => simp
  | ok spec => simp

/-- **The gate refuses** what does not pass and nothing else, with all that is said against it. -/
theorem accept_eq_error_iff {e : MachineError} : accept text secret = .error e ↔
    Refused text secret ∧ e = .invalidSpec (complaints text secret) := by
  rw [refused_iff]
  unfold accept complaints decodeSpec check
  cases ProviderSpec.format.decode text with
  | error f => simp [Except.bind, eq_comm]
  | ok spec =>
    dsimp only [Except.bind]
    cases violations spec (some secret) with
    | nil => exact iff_of_false nofun fun h => h.1 rfl
    | cons v vs => exact ⟨fun h => ⟨nofun, (Except.error.inj h).symm⟩, fun h => congrArg _ h.2.symm⟩

theorem accept_of_refused (h : Refused text secret) :
    accept text secret = .error (.invalidSpec (complaints text secret)) :=
  accept_eq_error_iff.mpr ⟨h, rfl⟩

theorem accept_of_not_refused (h : ¬ Refused text secret) :
    ∃ spec, accept text secret = .ok spec := by
  cases ha : accept text secret with
  | ok spec => exact ⟨spec, rfl⟩
  | error e => exact absurd (accept_eq_error_iff.mp ha).1 h

/-- **A specification that breaks no rule** passes as the text that is written for it. -/
theorem accept_encode (h : violations spec (some secret) = []) :
    accept (Utf8.encode (ProviderSpec.format.encode spec)) secret = .ok spec :=
  accept_eq_ok_iff.mpr ⟨decodeSpec_eq_ok_iff.mpr (roundTrips_of_faithful ProviderSpec.faithful spec),
    h⟩

/-! ### Secrets at the gate -/

/-- What is said against a secret without credentials. -/
def missingCredentials : Violation :=
  .secret ("secret " ++ CredentialKey.listing ++ " is required field")

/-- What is said against a secret without data for a new machine. -/
def missingUserData : Violation :=
  .secret ("secret " ++ Secret.userDataKey ++ " is required field")

/-- **The rules for a secret** look at its credentials in use, and at whether it has data. -/
theorem secretViolations_some (secret : Secret) : secretViolations (some secret) =
    (if secret.credentials?.isSome then [] else [missingCredentials]) ++
      (if secret.contains Secret.userDataKey then [] else [missingUserData]) := by
  rw [← Secret.any_contains_eq]
  rfl

/-- **Missing credentials are reported** exactly if there are none to use. -/
theorem missingCredentials_mem_iff :
    missingCredentials ∈ secretViolations (some secret) ↔ secret.credentials? = none := by
  have hother : missingCredentials ≠ missingUserData := by decide
  rw [secretViolations_some]
  cases secret.credentials? <;> cases secret.contains Secret.userDataKey <;> simp [hother]

theorem credentials_of_accept (h : accept text secret = .ok spec) : secret.credentials? ≠ none := by
  obtain ⟨-, hnone⟩ := accept_eq_ok_iff.mp h
  have hsecret : secretViolations (some secret) = [] := (List.append_eq_nil_iff.mp hnone).2
  rw [Ne, ← missingCredentials_mem_iff, hsecret]
  exact List.not_mem_nil

/-- **Secrets of which the same is used** pass alike, and the same is said against them. -/
theorem accept_of_interchangeable {s t : Secret} (h : s.Interchangeable t) :
    accept text s = accept text t := by
  have hsame : secretViolations (some s) = secretViolations (some t) := by
    rw [secretViolations_some, secretViolations_some, h.credentials, h.userData]
  unfold accept check violations
  rw [hsame]

/-! ### The zone -/

theorem zone_ne (h : violations spec (some secret) = []) : spec.zone ≠ "" :=
  (violations_eq_nil_iff.mp h).zone

end Admission

end GceMachines
