import GceMachines.Machine.Secret
import GceMachines.Proofs.SortedMap

/-!
# What of a secret is used

Of several credentials the ones under the key that counts most are in use. What stands under a key
that counts less is never looked at, and the project beside the credentials only if they do not
name one themselves.

* `Credentials.Ignores`: the keys that are not looked at.
* `Secret.credentials?_eq_some_iff`: the credentials in use.
* `Secret.Interchangeable`: two secrets of which the same is used.
* `Secret.interchangeable_of_ignored`: two that differ under keys that are not looked at.
* `Secret.project_ne_missing`: a secret with credentials does not fail for having none.
* `Secret.project_eq_ok_iff`, `Secret.project_ne`: a project that a secret names is not empty.
* `Secret.project_of_external`: the project beside the credentials of an external account.
-/

namespace GceMachines

/-- A key that counts more than another one. -/
def CredentialKey.CountsOver (k k' : CredentialKey) : Prop := [k, k'].Sublist order

instance CredentialKey.decidableCountsOver (k k' : CredentialKey) : Decidable (k.CountsOver k') :=
  inferInstanceAs (Decidable ([k, k'].Sublist order))

theorem CredentialKey.forall_iff {P : CredentialKey → Prop} :
    (∀ k, P k) ↔ P .serviceAccountJson ∧ P .serviceAccountFile ∧ P .credentialsConfig :=
  ⟨fun h => ⟨h _, h _, h _⟩, fun h k => by cases k <;> simp only [h]⟩

theorem CredentialKey.CountsOver.asymm {k k' : CredentialKey} (h : k.CountsOver k') :
    ¬ k'.CountsOver k := by
  revert k k'
  simp only [CredentialKey.forall_iff]
  decide

/-- **A key that is not looked at** beside some credentials: one of credentials that count less, the
project beside credentials that name one themselves, or a key with no meaning. -/
structure Credentials.Ignores (c : Credentials) (key : String) : Prop where
  userData : key ≠ Secret.userDataKey
  project : key = Secret.projectKey → c.key.kind = .serviceAccount
  credentials : ∀ k : CredentialKey, key = k.text → c.key.CountsOver k

namespace Secret

variable {s t secret : Secret} {c : Credentials} {project : String}

/-! ### The credentials in use -/

/-- **The credentials in use** stand under the key that counts most. -/
theorem credentials?_eq_some_iff : s.credentials? = some c ↔
    s.get? c.key.text = some c.document ∧
      ∀ k : CredentialKey, k.CountsOver c.key → s.get? k.text = none := by
  obtain ⟨key, document⟩ := c
  simp only [credentials?, CredentialKey.order, List.findSome?_cons, List.findSome?_nil,
    CredentialKey.forall_iff]
  cases key
  all_goals
    cases s.get? CredentialKey.serviceAccountJson.text <;>
      cases s.get? CredentialKey.serviceAccountFile.text <;>
      cases s.get? CredentialKey.credentialsConfig.text <;>
      simp +decide

theorem any_contains_eq :
    CredentialKey.order.any (fun k => s.contains k.text) = s.credentials?.isSome := by
  unfold credentials?
  rw [List.isSome_findSome?]
  simp only [Option.isSome_map]
  rfl

/-! ### Secrets of which the same is used -/

/-- **Two secrets of which the same is used**: they have the same credentials in use, the same
project beside them if those do not name one, and both or neither of them have data for a new
machine. -/
structure Interchangeable (s t : Secret) : Prop where
  credentials : s.credentials? = t.credentials?
  project : ∀ document, s.credentials? = some ⟨.credentialsConfig, document⟩ →
    s.get? projectKey = t.get? projectKey
  userData : s.contains userDataKey = t.contains userDataKey

theorem Interchangeable.project_eq (h : s.Interchangeable t) : s.project = t.project := by
  unfold Secret.project
  rw [← h.credentials]
  cases hc : s.credentials? with
  | none => rfl
  | some c =>
    have hnamed : s.namedProject c = t.namedProject c := by
      obtain ⟨key, document⟩ := c
      cases key with
      | serviceAccountJson => rfl
      | serviceAccountFile => rfl
      | credentialsConfig =>
        unfold namedProject
        rw [h.project document hc]
    dsimp only
    rw [hnamed]

theorem userData_eq (h : s.get? userDataKey = t.get? userDataKey) : s.userData = t.userData := by
  unfold Secret.userData
  rw [h]

/-- **Changes under keys that are not looked at** leave the credentials in use. -/
theorem credentials?_of_ignored (hc : s.credentials? = some c)
    (h : ∀ key, t.get? key ≠ s.get? key → c.Ignores key) : t.credentials? = some c := by
  obtain ⟨hdocument, hover⟩ := credentials?_eq_some_iff.mp hc
  have hkept (k : CredentialKey) (hk : ¬ c.key.CountsOver k) : t.get? k.text = s.get? k.text :=
    Decidable.not_not.mp fun hne => hk ((h _ hne).credentials k rfl)
  refine credentials?_eq_some_iff.mpr ⟨?_, fun k hk => ?_⟩
  · rw [hkept c.key fun hself => hself.asymm hself, hdocument]
  · rw [hkept k hk.asymm, hover k hk]

theorem interchangeable_of_ignored (hc : s.credentials? = some c)
    (h : ∀ key, t.get? key ≠ s.get? key → c.Ignores key) :
    s.Interchangeable t ∧ s.get? userDataKey = t.get? userDataKey := by
  have hdata : s.get? userDataKey = t.get? userDataKey :=
    Decidable.not_not.mp fun hne => (h _ (Ne.symm hne)).userData rfl
  refine ⟨⟨hc.trans (credentials?_of_ignored hc h).symm, fun document hconfig => ?_, ?_⟩, hdata⟩
  · refine Decidable.not_not.mp fun hne => ?_
    have hkind := (h _ (Ne.symm hne)).project rfl
    rw [Option.some.inj (hc.symm.trans hconfig)] at hkind
    cases hkind
  · unfold SortedMap.contains
    rw [hdata]

/-! ### Secrets without credentials -/

/-- The failure of a secret without credentials. -/
def missingCredentials : MachineError :=
  .credentials ("secret needs one of " ++ CredentialKey.listing)

/-- The third letter tells it from the other failures. -/
theorem credentials_ne_missing {text : String} (h : text.toList[2]? ≠ some 'c') :
    MachineError.credentials text ≠ missingCredentials := by
  intro he
  rw [MachineError.credentials.inj he] at h
  exact h (by decide)

theorem namedProject_ne_missing : s.namedProject c ≠ .error missingCredentials := by
  unfold namedProject
  split
  · split
    · nofun
    · refine fun he => credentials_ne_missing ?_ (Except.error.inj he)
      cases c.key <;> simp [CredentialKey.text]
  · nofun

theorem project_ne_missing (h : s.credentials? ≠ none) : s.project ≠ .error missingCredentials := by
  unfold Secret.project
  split
  · next hc => exact absurd hc h
  · next c _ =>
    have hnamed : s.namedProject c ≠ .error missingCredentials := namedProject_ne_missing
    cases hn : s.namedProject c with
    | error e => exact fun he => hnamed (hn.trans he)
    | ok p =>
      dsimp only [Except.bind]
      split
      · exact fun he => credentials_ne_missing (by simp) (Except.error.inj he)
      · nofun

/-! ### The project -/

/-- **The project of a secret** is the one that its credentials name, if that is not empty. -/
theorem project_eq_ok_iff : secret.project = .ok project ↔
    ∃ c, secret.credentials? = some c ∧ secret.namedProject c = .ok project ∧ project ≠ "" := by
  unfold Secret.project
  cases secret.credentials? with
  | none => simp
  | some c =>
    simp only [Option.some.injEq, exists_eq_left']
    cases secret.namedProject c with
    | error e => simp [Except.bind]
    | ok p =>
      dsimp only [Except.bind]
      split
      · next hempty =>
        have hp : p = "" := by simpa using hempty
        refine iff_of_false nofun fun h => h.2 ?_
        rw [← Except.ok.inj h.1, hp]
      · next hempty =>
        have hp : p ≠ "" := by simpa using hempty
        exact ⟨fun h => ⟨h, Except.ok.inj h ▸ hp⟩, And.left⟩

theorem project_ne (h : secret.project = .ok project) : project ≠ "" := by
  obtain ⟨_, -, -, hne⟩ := project_eq_ok_iff.mp h
  exact hne

theorem project_of_external (document : List UInt8)
    (hc : secret.credentials? = some ⟨.credentialsConfig, document⟩)
    (hp : (secret.get? projectKey).map (fun bs => Text.trim (Utf8.decodeLossy bs)) = some project)
    (hne : project.isEmpty = false) : secret.project = .ok project := by
  unfold Secret.project Secret.namedProject
  rw [hc]
  simp only [CredentialKey.kind, hp, Option.getD_some, Except.bind, hne]
  rfl

end Secret

end GceMachines
