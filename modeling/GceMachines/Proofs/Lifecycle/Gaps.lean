import GceMachines.Proofs.Lifecycle.InstanceBody
import GceMachines.Proofs.Text.Blank

/-!
# What the checks let through

Two things that a specification says can be lost in the body although it passes the checks. The
checks keep one of the two keys for the data to start with out of the metadata, and not the other,
so an entry of the specification may have the same key as a script that the machine starts with.
And they do not look at the encryption of disks, so a key whose name is blank is left out, and the
disk is encrypted without it.

* `metadataKeys`: the keys of the metadata of a body.
* `bootstrap_key_exact`: how often the key for the data to start with is among them.
* `Encrypts`: a disk of a body with the encryption of one of the specification.
* `specViolations_encrypted`: the checks are the same whatever the encryption.
* `encryption_exact`: which encryption keys are kept.
-/

namespace GceMachines.Lifecycle

open Compute

variable {spec : ProviderSpec} {userData : String}

/-! ### The key for the data to start with -/

/-- The keys of the metadata of an instance, in order. -/
def metadataKeys (i : Instance) : List String :=
  (i.metadata.map fun m => m.items.map MetadataItem.key).getD []

/-- Data that are a cloud-init document. -/
def IsCloudConfig (userData : String) : Prop := "#cloud-config".toList <+: userData.toList

theorem bootstrapKey_of_cloudConfig (h : IsCloudConfig userData) :
    bootstrapKey userData = "user-data" :=
  if_pos (List.isPrefixOf_iff_prefix.mpr h)

theorem bootstrapKey_of_script (h : ¬ IsCloudConfig userData) :
    bootstrapKey userData = "startup-script" :=
  if_neg fun hp => h (List.isPrefixOf_iff_prefix.mp hp)

theorem metadataKeys_instanceBody (name project : String) (spec : ProviderSpec)
    (userData : String) : metadataKeys (instanceBody name project spec userData) =
      bootstrapKey userData :: spec.metadata.map Spec.MetadataItem.key := by
  show bootstrapKey userData :: List.map _ (List.map _ _) = _
  rw [List.map_map]
  rfl

/-- **The key for the data to start with** comes first in the metadata of what passes the checks,
with the data under it. No other entry has it if the data are a cloud-init document. If they are a
script, the entries of the specification that are called `startup-script` have it as well, so it
stands there once exactly if there is no such entry. -/
theorem bootstrap_key_exact (h : Admission.specViolations spec = [])
    (name project userData : String) :
    (∃ items, (instanceBody name project spec userData).metadata =
      some ⟨⟨bootstrapKey userData, some userData⟩ :: items, none⟩) ∧
    (IsCloudConfig userData → bootstrapKey userData = "user-data" ∧
      (metadataKeys (instanceBody name project spec userData)).count "user-data" = 1) ∧
    (¬ IsCloudConfig userData → bootstrapKey userData = "startup-script" ∧
      (metadataKeys (instanceBody name project spec userData)).count "startup-script" =
        1 + (spec.metadata.map Spec.MetadataItem.key).count "startup-script") ∧
    ((metadataKeys (instanceBody name project spec userData)).count (bootstrapKey userData) = 1 ↔
      IsCloudConfig userData ∨ ∀ m ∈ spec.metadata, m.key ≠ "startup-script") := by
  obtain ⟨secret, hadmitted⟩ := Admission.exists_admitted h
  have hreserved : (spec.metadata.map Spec.MetadataItem.key).count "user-data" = 0 := by
    rw [List.count_eq_zero, List.mem_map]
    rintro ⟨m, hm, hkey⟩
    exact hadmitted.metadata m hm hkey
  have hfree : (spec.metadata.map Spec.MetadataItem.key).count "startup-script" = 0 ↔
      ∀ m ∈ spec.metadata, m.key ≠ "startup-script" := by
    rw [List.count_eq_zero, List.mem_map]
    exact ⟨fun hnot m hm hkey => hnot ⟨m, hm, hkey⟩, fun hall ⟨m, hm, hkey⟩ => hall m hm hkey⟩
  rw [metadataKeys_instanceBody]
  refine ⟨⟨_, rfl⟩, fun hcloud => ?_, fun hscript => ?_, ?_⟩
  · rw [bootstrapKey_of_cloudConfig hcloud, List.count_cons_self, hreserved]
    exact ⟨rfl, rfl⟩
  · rw [bootstrapKey_of_script hscript, List.count_cons_self, Nat.add_comm]
    exact ⟨rfl, rfl⟩
  · rw [List.count_cons_self, Nat.add_eq_right]
    by_cases hcloud : IsCloudConfig userData
    · rw [bootstrapKey_of_cloudConfig hcloud]
      exact iff_of_true hreserved (.inl hcloud)
    · rw [bootstrapKey_of_script hcloud, hfree]
      exact (or_iff_right hcloud).symm

/-- A specification that passes the checks, with an entry called `startup-script`. -/
def scripted : ProviderSpec :=
  { workstation with metadata := [⟨"team", none⟩, ⟨"startup-script", some "true"⟩] }

/-- With a cloud-init document to start with, the key stands in its body once; with a script, it
stands there twice. -/
theorem scripted_keys : Admission.specViolations scripted = [] ∧
    (metadataKeys (instanceBody "a" "p" scripted "#cloud-config")).count "user-data" = 1 ∧
    (metadataKeys (instanceBody "a" "p" scripted "echo hi")).count "startup-script" = 2 := by
  have hpasses : Admission.specViolations scripted = [] := by decide +kernel
  have hone : (scripted.metadata.map Spec.MetadataItem.key).count "startup-script" = 1 := by
    decide +kernel
  have hdocument : IsCloudConfig "#cloud-config" := List.prefix_refl _
  have hecho : ¬ IsCloudConfig "echo hi" := by
    unfold IsCloudConfig
    decide
  obtain ⟨-, hcloud, -⟩ := bootstrap_key_exact hpasses "a" "p" "#cloud-config"
  obtain ⟨-, -, hscript, -⟩ := bootstrap_key_exact hpasses "a" "p" "echo hi"
  obtain ⟨-, htwice⟩ := hscript hecho
  rw [hone] at htwice
  exact ⟨hpasses, (hcloud hdocument).2, htwice⟩

/-- **The key for the data to start with is not kept apart** by the checks: what passes them may
have it twice. -/
theorem bootstrap_key_shadowed : ¬ ∀ (spec : ProviderSpec) (userData : String),
    Admission.specViolations spec = [] →
      (metadataKeys (instanceBody "a" "p" spec userData)).count (bootstrapKey userData) = 1 := by
  intro h
  have hpasses : Admission.specViolations scripted = [] := by decide +kernel
  have htwice : (metadataKeys (instanceBody "a" "p" scripted "echo hi")).count
    (bootstrapKey "echo hi") = 2 := by decide +kernel
  cases htwice.symm.trans (h scripted "echo hi" hpasses)

/-! ### The encryption of disks -/

/-- **What is kept of a text that names something**: the text without the blanks around it, and
nothing of a text of blanks. -/
structure Names (text : String) (name : Option String) : Prop where
  kept : ∀ key, name = some key → key ≠ "" ∧ Text.Trims text key
  lost : name = none ↔ ∀ c ∈ text.toList, Text.isBlank c = true

/-- **A disk of a body with the encryption of a disk of a specification.** -/
structure Encrypts (d : Spec.Disk) (a : AttachedDisk) : Prop where
  plain : d.encryption = none → a.encryptionKey = none
  encrypted : ∀ e, d.encryption = some e → ∃ k, a.encryptionKey = some k ∧
    Names e.kmsKeyName k.kmsKeyName ∧ Names e.kmsKeyServiceAccount k.kmsKeyServiceAccount

theorem names_trim (text : String) : Names text (nonEmpty (Text.trim text)) where
  kept key hkey := by
    obtain ⟨rfl, hne⟩ := nonEmpty_eq_some_iff.mp hkey
    exact ⟨hne, Text.trim_trims text⟩
  lost := by
    rw [← Text.trim_eq_empty_iff, nonEmpty, ite_eq_left_iff, ← String.isEmpty_iff]
    simp

theorem names_encryptionKey (e : Spec.DiskEncryption) :
    Names e.kmsKeyName (encryptionKey e).kmsKeyName ∧
      Names e.kmsKeyServiceAccount (encryptionKey e).kmsKeyServiceAccount := by
  unfold encryptionKey
  dsimp only
  exact ⟨names_trim e.kmsKeyName, names_trim e.kmsKeyServiceAccount⟩

theorem encrypts_attachedDisk (zone : String) (d : Spec.Disk) :
    Encrypts d (attachedDisk zone d) := by
  have hkey : (attachedDisk zone d).encryptionKey = d.encryption.map encryptionKey := by
    unfold attachedDisk
    split <;> rfl
  constructor
  case plain =>
    intro hnone
    rw [hkey, hnone]
    rfl
  case encrypted =>
    intro e he
    rw [hkey, he]
    exact ⟨encryptionKey e, rfl, names_encryptionKey e⟩

/-- A specification with other encryption on its disks. -/
def encrypted (f : Spec.Disk → Option Spec.DiskEncryption) (spec : ProviderSpec) : ProviderSpec :=
  { spec with disks := spec.disks.map fun d => { d with encryption := f d } }

/-- **The checks do not look at the encryption of disks.** -/
theorem specViolations_encrypted (f : Spec.Disk → Option Spec.DiskEncryption)
    (spec : ProviderSpec) :
    Admission.specViolations (encrypted f spec) = Admission.specViolations spec := by
  have hdisks : Admission.eachItem Admission.diskViolations (Admission.root.child "disks")
      (encrypted f spec).disks =
      Admission.eachItem Admission.diskViolations (Admission.root.child "disks") spec.disks := by
    unfold Admission.eachItem encrypted
    rw [List.zipIdx_map, List.flatMap_map]
    rfl
  have hnone : (encrypted f spec).disks.isEmpty = spec.disks.isEmpty := List.isEmpty_map
  unfold Admission.specViolations
  rw [hdisks, hnone]
  rfl

/-- **Which encryption keys are kept.** A disk of the body has an encryption key if the disk of the
specification has one, scratch disk or not, with the names of the key and of its account without the
blanks around them; but a name of blanks only is left out, and the checks are the same with every
encryption. So the name of the key is kept exactly if it is not blank. -/
theorem encryption_exact (name project : String) (spec : ProviderSpec) (userData : String) :
    List.Forall₂ Encrypts spec.disks (instanceBody name project spec userData).disks ∧
      ∀ f, Admission.specViolations (encrypted f spec) = Admission.specViolations spec := by
  refine ⟨List.forall₂_map_right_iff.mpr <| List.forall₂_same.mpr fun d _ => ?_,
    fun f => specViolations_encrypted f spec⟩
  exact encrypts_attachedDisk spec.zone d

/-- **A requested encryption may be dropped**: a specification passes the checks with the name of a
key on its disk that is blank, and the disk of the body has no such name. -/
theorem encryption_dropped : ¬ ∀ spec : ProviderSpec, Admission.specViolations spec = [] →
    ∀ (n : Nat) (d : Spec.Disk) (e : Spec.DiskEncryption), spec.disks[n]? = some d →
      d.encryption = some e →
        ∃ (a : AttachedDisk) (k : EncryptionKey) (key : String),
          (instanceBody "a" "p" spec "").disks[n]? = some a ∧ a.encryptionKey = some k ∧
          k.kmsKeyName = some key ∧ key ≠ "" ∧ Text.Trims e.kmsKeyName key := by
  intro h
  have hpasses :
      Admission.specViolations (encrypted (fun _ => some ⟨" ", ""⟩) workstation) = [] := by
    decide +kernel
  obtain ⟨a, k, key, ha, hk, hkey, -⟩ := h _ hpasses 0 _ _ rfl rfl
  cases ha
  cases hk
  cases hkey

end GceMachines.Lifecycle
