import GceMachines.Compute.Backends
import GceMachines.Proofs.Lifecycle.Alike
import GceMachines.Proofs.Remote.Tokens
import GceMachines.Proofs.Spec.Admission

/-!
# Only the credentials in use matter

Three parts of the program look at the credentials of a secret: the gate looks whether there are
any, a call looks for the project that they belong to, and the connection fetches a token for them.
All three look at the same ones, so a token never belongs to other credentials than the project
does. What else a secret has makes no difference, in memory or over the network, and a secret that
passed the gate is never found without credentials behind it.

* `Indistinguishable`: two plans that come to the same with either service.
* `only_credentials_in_use_matter`: secrets of which the same is used lead to such plans.
-/

namespace GceMachines

open Program (Outcome)

variable {σ α : Type} {p q : Plan α} {s t : Secret}

/-- **The messages that a plan sends**, with what came back. -/
def Remote.messages (o : Outside σ) (endpoint : String) (cancelAt : Option Nat) (p : Plan α)
    (x : σ) : List Sent :=
  ((backend o.recording endpoint).run cancelAt p (.start (start (x, [])))).state.state.outside.2

/-- **Two plans that no service tells apart**: in memory and over the network, from every state and
whenever they are cancelled, they end with the same or wait for ever alike, in the same state and
at the same time, with the same calls at the same times and with the same counts. Over the network
they send the same messages, those for a token among them, and see the same come back. -/
structure Indistinguishable (p q : Plan α) : Prop where
  inMemory (refusal : Option ServiceError) (cancelAt : Option Nat) (m : InMemory) :
    Outcome.Agree World.Alike ((InMemory.backend refusal).run cancelAt p (.start m))
      ((InMemory.backend refusal).run cancelAt q (.start m))
  remote {σ : Type} (o : Outside σ) (endpoint : String) (cancelAt : Option Nat) (x : σ) :
    Outcome.Agree World.Alike
      ((Remote.backend o endpoint).run cancelAt p (.start (Remote.start x)))
      ((Remote.backend o endpoint).run cancelAt q (.start (Remote.start x)))
  messages {σ : Type} (o : Outside σ) (endpoint : String) (cancelAt : Option Nat) (x : σ) :
    Remote.messages o endpoint cancelAt p x = Remote.messages o endpoint cancelAt q x

theorem InMemory.connect_congr (refusal : Option ServiceError) (s t : Secret) :
    (backend refusal).connect s = (backend refusal).connect t := rfl

theorem Remote.connect_congr (h : s.credentials? = t.credentials?) (o : Outside σ)
    (endpoint : String) : (backend o endpoint).connect s = (backend o endpoint).connect t := by
  funext x
  simp only [backend, connect, Token.fetch_congr h]

theorem Plan.Alike.indistinguishable (hp : Plan.Alike s t p q)
    (hc : s.credentials? = t.credentials?) : Indistinguishable p q := by
  have hremote {σ : Type} (o : Outside σ) (endpoint : String) (cancelAt : Option Nat) (x : σ) :
      Outcome.Agree World.Alike
        ((Remote.backend o endpoint).run cancelAt p (.start (Remote.start x)))
        ((Remote.backend o endpoint).run cancelAt q (.start (Remote.start x))) :=
    hp.run (Remote.connect_congr hc o endpoint) (.refl _)
  refine ⟨fun refusal _ _ => hp.run (InMemory.connect_congr refusal s t) (.refl _), hremote, ?_⟩
  intro σ o endpoint cancelAt x
  unfold Remote.messages
  rw [(hremote o.recording endpoint cancelAt (x, [])).state.state]

/-! ### The calls of the driver -/

namespace Secret.Interchangeable

variable (h : s.Interchangeable t) (limits : Lifecycle.Limits) (name : String) (text : List UInt8)
include h

theorem gated {β : Type} {activity : String} {f : α → β}
    {p q : ProviderSpec → Plan (Except MachineError α)}
    (hp : ∀ spec, Plan.Alike s t (p spec) (q spec)) :
    Indistinguishable (Driver.gated activity text s p f) (Driver.gated activity text t q f) :=
  (Driver.gated_alike (Admission.accept_of_interchangeable h) hp).indistinguishable h.credentials

theorem create (hu : s.get? Secret.userDataKey = t.get? Secret.userDataKey) :
    Indistinguishable (Driver.create limits name text s) (Driver.create limits name text t) :=
  h.gated text fun _ => Lifecycle.create_alike h.project_eq (Secret.userData_eq hu)

theorem delete :
    Indistinguishable (Driver.delete limits name text s) (Driver.delete limits name text t) :=
  h.gated text fun _ => Lifecycle.delete_alike h.project_eq

theorem status :
    Indistinguishable (Driver.status limits name text s) (Driver.status limits name text t) :=
  h.gated text fun _ => Lifecycle.status_alike h.project_eq

theorem list : Indistinguishable (Driver.list limits text s) (Driver.list limits text t) :=
  h.gated text fun _ => Lifecycle.list_alike h.project_eq

theorem describe (id : String) : Indistinguishable (Driver.describe id s) (Driver.describe id t) :=
  (Driver.during_alike Lifecycle.describe_alike).indistinguishable h.credentials

theorem validate_eq : Driver.validate text s = Driver.validate text t := by
  unfold Driver.validate
  rw [Admission.accept_of_interchangeable h]

end Secret.Interchangeable

/-- **Only the credentials in use matter.** Two secrets with the same credentials in use, the same
project beside them if those do not name one, and data for a new machine in both of them or in
neither, lead every call of the driver to the same, over either service; creating a machine needs
the same data as well. So what stands under other keys makes no difference, be it credentials that
count less, a project beside credentials that name one themselves, or anything else. The gate
reports missing credentials exactly if there are none to use, and behind the gate nothing fails for
want of them. -/
theorem only_credentials_in_use_matter :
    (∀ s t : Secret, s.Interchangeable t →
      (∀ limits name text, s.get? Secret.userDataKey = t.get? Secret.userDataKey →
        Indistinguishable (Driver.create limits name text s) (Driver.create limits name text t)) ∧
      (∀ limits name text,
        Indistinguishable (Driver.delete limits name text s) (Driver.delete limits name text t)) ∧
      (∀ limits name text,
        Indistinguishable (Driver.status limits name text s) (Driver.status limits name text t)) ∧
      (∀ limits text,
        Indistinguishable (Driver.list limits text s) (Driver.list limits text t)) ∧
      (∀ id, Indistinguishable (Driver.describe id s) (Driver.describe id t)) ∧
      ∀ text, Driver.validate text s = Driver.validate text t) ∧
    (∀ (s t : Secret) (c : Credentials), s.credentials? = some c →
      (∀ key, t.get? key ≠ s.get? key → c.Ignores key) →
      s.Interchangeable t ∧ s.get? Secret.userDataKey = t.get? Secret.userDataKey) ∧
    (∀ s : Secret, Admission.missingCredentials ∈ Admission.secretViolations (some s) ↔
      s.credentials? = none) ∧
    ∀ text s spec, Admission.accept text s = .ok spec →
      s.credentials? ≠ none ∧ s.project ≠ .error Secret.missingCredentials ∧
      ∀ (σ : Type) (o : Outside σ) (x y : σ),
        (Token.fetch s).run o.handler x ≠ .answered (.error .noCredentials) y := by
  refine ⟨fun s t h => ?_, fun s t c hc hdiff => Secret.interchangeable_of_ignored hc hdiff,
    fun s => Admission.missingCredentials_mem_iff, fun text s spec ha => ?_⟩
  · exact ⟨h.create, h.delete, h.status, h.list, h.describe, h.validate_eq⟩
  · have hsome := Admission.credentials_of_accept ha
    exact ⟨hsome, Secret.project_ne_missing hsome, fun _ _ _ _ =>
      Token.fetch_ne_noCredentials hsome⟩

/-- A secret with the key of a service account. -/
def plainSecret : Secret :=
  (SortedMap.empty.insert "serviceAccountJSON" [0x7b, 0x7d]).insert "userData" [0x23]

/-- The same with credentials that count less, and a project that belongs to those. -/
def clutteredSecret : Secret :=
  (plainSecret.insert "credentialsConfig" [0x7b]).insert "projectID" [0x70]

/-- What was added makes no difference, not even to the creation of a machine. -/
theorem cluttered_only_credentials_in_use_matter :
    plainSecret ≠ clutteredSecret ∧
    plainSecret.credentials? = some ⟨.serviceAccountJson, [0x7b, 0x7d]⟩ ∧
    (∀ key, clutteredSecret.get? key ≠ plainSecret.get? key →
      Credentials.Ignores ⟨.serviceAccountJson, [0x7b, 0x7d]⟩ key) ∧
    ∀ limits name text, Indistinguishable (Driver.create limits name text plainSecret)
      (Driver.create limits name text clutteredSecret) := by
  have hused : plainSecret.credentials? = some ⟨.serviceAccountJson, [0x7b, 0x7d]⟩ := by decide
  have hadded : ∀ key, clutteredSecret.get? key ≠ plainSecret.get? key →
      Credentials.Ignores ⟨.serviceAccountJson, [0x7b, 0x7d]⟩ key := by
    intro key hne
    by_cases hproject : key = "projectID"
    · subst hproject
      exact ⟨by decide, fun _ => rfl, CredentialKey.forall_iff.mpr (by decide)⟩
    · by_cases hconfig : key = "credentialsConfig"
      · subst hconfig
        exact ⟨by decide, by decide, CredentialKey.forall_iff.mpr (by decide)⟩
      · refine absurd ?_ hne
        rw [clutteredSecret, SortedMap.get?_insert_of_ne hproject,
          SortedMap.get?_insert_of_ne hconfig]
  obtain ⟨hsame, hdata⟩ :=
    only_credentials_in_use_matter.2.1 plainSecret clutteredSecret _ hused hadded
  refine ⟨by decide, hused, hadded, fun limits name text => ?_⟩
  exact (only_credentials_in_use_matter.1 _ _ hsame).1 limits name text hdata

end GceMachines
