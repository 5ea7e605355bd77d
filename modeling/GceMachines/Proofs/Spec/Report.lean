import GceMachines.Proofs.Spec.Breaches

/-!
# The report of the checks

The report is exact: each breach of a rule is in it once, at its place. The sections of a
specification come one after the other, within a section the items of its list, and for an item the
rules for it. The place can be read off what is reported, so nothing is said twice, and what is said
of an item depends on the item and on its index only.

* `Place`, `Breach.place`: where in a report a breach stands.
* `Within`: breaches in order between two places; `Within.append`.
* `within_breaches`: the breaches of a specification and a secret are in order.
* `about`, `SameItem`: what a report says of an item, and specifications that share one.
* `violations_exact`: the report.
-/

namespace GceMachines.Admission

open Spec

/-! ### Places -/

/-- A place in a report: the section, the item in the section, and the rule for the item. -/
structure Place where
  part : Nat
  item : Nat
  number : Nat

/-- **The order of a report**: by sections, by items within a section, and by rules for an
item. -/
def Place.Before (p q : Place) : Prop :=
  p.part < q.part ∨ p.part = q.part ∧ (p.item < q.item ∨ p.item = q.item ∧ p.number < q.number)

/-- **Where in a report a breach stands.** -/
def Breach.place : Breach → Place
  | noDisk => ⟨0, 0, 0⟩
  | smallDisk n _ => ⟨0, n, 1⟩
  | diskType n _ => ⟨0, n, 2⟩
  | scratchInterface n _ => ⟨0, n, 3⟩
  | bootWithoutImage n _ => ⟨0, n, 4⟩
  | noMachineType => ⟨1, 0, 0⟩
  | noRegion => ⟨2, 0, 0⟩
  | noZone => ⟨3, 0, 0⟩
  | noInterface => ⟨4, 0, 0⟩
  | unconnected n _ => ⟨4, n, 1⟩
  | reservedKey n _ => ⟨5, n, 1⟩
  | noAccount => ⟨6, 0, 0⟩
  | email n _ => ⟨6, n, 1⟩
  | noAcceleratorType => ⟨7, 0, 0⟩
  | noAccelerator => ⟨7, 0, 1⟩
  | maintenance _ => ⟨8, 0, 0⟩
  | maintenanceWithGpu => ⟨8, 0, 1⟩
  | noSecret => ⟨9, 0, 0⟩
  | noCredentials => ⟨9, 0, 1⟩
  | noUserData => ⟨9, 0, 2⟩

variable {spec spec' : ProviderSpec} {secret secret' : Option Secret} {b : Breach}
  {l l' : List Breach} {p q r : Place}

instance Place.decidableBefore (p q : Place) : Decidable (p.Before q) :=
  inferInstanceAs (Decidable (_ ∨ _))

theorem Place.Before.ne {p q : Place} (h : p.Before q) : p ≠ q := by
  rintro rfl
  unfold Place.Before at h
  omega

theorem Place.Before.trans (h : p.Before q) (h' : q.Before r) : p.Before r := by
  unfold Place.Before at *
  omega

theorem Place.Before.trans_not (h : p.Before q) (h' : ¬ r.Before q) : p.Before r := by
  unfold Place.Before at *
  omega

theorem Place.not_before_trans (h : ¬ q.Before p) (h' : ¬ r.Before q) : ¬ r.Before p := by
  unfold Place.Before at *
  omega

theorem Place.before_rule (part n : Nat) {k k' : Nat} (h : k < k') :
    Place.Before ⟨part, n, k⟩ ⟨part, n, k'⟩ :=
  .inr ⟨rfl, .inr ⟨rfl, h⟩⟩

theorem Place.before_next (part n k k' : Nat) :
    Place.Before ⟨part, n, k⟩ ⟨part, n + 1, k'⟩ :=
  .inr ⟨rfl, .inl n.lt_succ_self⟩

/-- **Breaches in order**, from a place on and up to another one. -/
structure Within (p r : Place) (l : List Breach) : Prop where
  bounds : ¬ r.Before p
  inside : ∀ b ∈ l, ¬ b.place.Before p ∧ b.place.Before r
  ordered : l.Pairwise (·.place.Before ·.place)

theorem Within.nil (h : ¬ r.Before p) : Within p r [] := ⟨h, nofun, .nil⟩

theorem Within.append (h : Within p q l) (h' : Within q r l') : Within p r (l ++ l') where
  bounds := Place.not_before_trans h.bounds h'.bounds
  inside b hb := by
    cases List.mem_append.mp hb with
    | inl hl =>
      obtain ⟨hp, hq⟩ := h.inside b hl
      exact ⟨hp, hq.trans_not h'.bounds⟩
    | inr hl =>
      obtain ⟨hq, hr⟩ := h'.inside b hl
      exact ⟨Place.not_before_trans h.bounds hq, hr⟩
  ordered := List.pairwise_append.mpr ⟨h.ordered, h'.ordered, fun b hb b' hb' =>
    (h.inside b hb).2.trans_not (h'.inside b' hb').1⟩

theorem within_found (broken : Bool) (hp : ¬ b.place.Before p) (hr : b.place.Before r) :
    Within p r (found broken b) := by
  have hbounds : ¬ r.Before p := fun h => hp (hr.trans h)
  unfold found
  cases broken with
  | false => exact .nil hbounds
  | true =>
    refine ⟨hbounds, ?_, List.pairwise_singleton _ _⟩
    simp only [if_true, List.mem_singleton, forall_eq]
    exact ⟨hp, hr⟩

theorem within_own (b : Breach) (broken : Bool) (hr : b.place.Before r) :
    Within b.place r (found broken b) :=
  within_found broken (fun h => h.ne rfl) hr

theorem within_eachFound {α : Type} {find : Nat → α → List Breach} {part : Nat}
    (hfind : ∀ n a, Within ⟨part, n, 1⟩ ⟨part, n + 1, 1⟩ (find n a)) (hr : part < r.part)
    (as : List α) : Within ⟨part, 0, 1⟩ r (eachFound find as) := by
  unfold eachFound
  generalize 0 = n
  induction as generalizing n with
  | nil =>
    refine .nil ?_
    unfold Place.Before
    dsimp only
    omega
  | cons a as ih => exact (hfind n a).append (ih (n + 1))

theorem within_diskBreaches (n : Nat) (d : Disk) :
    Within ⟨0, n, 1⟩ ⟨0, n + 1, 1⟩ (diskBreaches n d) := by
  have hsize := within_own (.smallDisk n d) (r := ⟨0, n, 2⟩) (d.sizeGb < minDiskSizeGb)
    (Place.before_rule 0 n (by decide))
  have htype := within_own (.diskType n d) (r := ⟨0, n, 3⟩) (d.type ∉ diskTypes)
    (Place.before_rule 0 n (by decide))
  have hinterface := within_own (.scratchInterface n d) (r := ⟨0, n, 4⟩)
    (d.isScratch && d.interface ∉ diskInterfaces) (Place.before_rule 0 n (by decide))
  have himage := within_own (.bootWithoutImage n d) (r := ⟨0, n + 1, 1⟩)
    (d.boot && d.image.isEmpty) (Place.before_next 0 n 4 1)
  exact ((hsize.append htype).append hinterface).append himage

theorem within_interfaceBreaches (n : Nat) (i : NetworkInterface) :
    Within ⟨4, n, 1⟩ ⟨4, n + 1, 1⟩ (interfaceBreaches n i) :=
  within_own (.unconnected n i) _ (Place.before_next 4 n 1 1)

theorem within_metadataBreaches (n : Nat) (m : MetadataItem) :
    Within ⟨5, n, 1⟩ ⟨5, n + 1, 1⟩ (metadataBreaches n m) :=
  within_own (.reservedKey n m) _ (Place.before_next 5 n 1 1)

theorem within_accountBreaches (n : Nat) (a : ServiceAccount) :
    Within ⟨6, n, 1⟩ ⟨6, n + 1, 1⟩ (accountBreaches n a) :=
  within_own (.email n a) _ (Place.before_next 6 n 1 1)

theorem within_gpuBreaches (gpu : Option Gpu) : Within ⟨7, 0, 0⟩ ⟨8, 0, 0⟩ (gpuBreaches gpu) := by
  cases gpu with
  | none => exact .nil (by decide)
  | some g =>
    exact (within_own .noAcceleratorType (r := ⟨7, 0, 1⟩) _ (by decide)).append
      (within_own .noAccelerator _ (by decide))

theorem within_schedulingBreaches (withGpu : Bool) (s : Scheduling) :
    Within ⟨8, 0, 0⟩ ⟨9, 0, 0⟩ (schedulingBreaches withGpu s) :=
  (within_own (.maintenance s.onHostMaintenance) (r := ⟨8, 0, 1⟩) _
    (Place.before_rule 8 0 (by decide))).append (within_own .maintenanceWithGpu _ (by decide))

theorem within_secretBreaches (secret : Option Secret) :
    Within ⟨9, 0, 0⟩ ⟨10, 0, 0⟩ (secretBreaches secret) := by
  cases secret with
  | none => exact within_own .noSecret true (by decide)
  | some s =>
    exact (within_found (b := .noCredentials) (r := ⟨9, 0, 2⟩) _ (by decide) (by decide)).append
      (within_own .noUserData _ (by decide))

/-- **The breaches stand in order.** -/
theorem within_breaches (spec : ProviderSpec) (secret : Option Secret) :
    Within ⟨0, 0, 0⟩ ⟨10, 0, 0⟩ (breaches spec secret) := by
  have hdisks : Within ⟨0, 0, 0⟩ ⟨1, 0, 0⟩
      (found spec.disks.isEmpty .noDisk ++ eachFound diskBreaches spec.disks) :=
    (within_own .noDisk _ (by decide)).append (within_eachFound within_diskBreaches (by decide) _)
  have hmachineType := hdisks.append
    (within_own .noMachineType (r := ⟨2, 0, 0⟩) spec.machineType.isEmpty (by decide))
  have hregion := hmachineType.append
    (within_own .noRegion (r := ⟨3, 0, 0⟩) spec.region.isEmpty (by decide))
  have hzone := hregion.append
    (within_own .noZone (r := ⟨4, 0, 0⟩) spec.zone.isEmpty (by decide))
  have hinterfaces := (hzone.append
    (within_own .noInterface (r := ⟨4, 0, 1⟩) spec.networkInterfaces.isEmpty
      (by decide))).append
    (within_eachFound (r := ⟨5, 0, 1⟩) within_interfaceBreaches (by decide) spec.networkInterfaces)
  have hmetadata := hinterfaces.append
    (within_eachFound (r := ⟨6, 0, 0⟩) within_metadataBreaches (by decide) spec.metadata)
  have haccounts := (hmetadata.append
    (within_own .noAccount (r := ⟨6, 0, 1⟩) spec.serviceAccounts.isEmpty
      (by decide))).append
    (within_eachFound (r := ⟨7, 0, 0⟩) within_accountBreaches (by decide) spec.serviceAccounts)
  exact ((haccounts.append (within_gpuBreaches spec.gpu)).append
    (within_schedulingBreaches spec.gpu.isSome spec.scheduling)).append
      (within_secretBreaches secret)

/-! ### Items -/

/-- The list and the index of the item that a violation is about. -/
def item? : Violation → Option (String × Nat)
  | .field ⟨_, .child list :: .index n :: _⟩ _ => some (list, n)
  | _ => none

/-- **What a report says of an item of a list.** -/
def about (list : String) (n : Nat) (vs : List Violation) : List Violation :=
  vs.filter fun v => item? v = some (list, n)

/-- **Two specifications that have the same item** at an index of a list, or both none. -/
structure SameItem (list : String) (n : Nat) (s t : ProviderSpec) : Prop where
  disks : list = "disks" → s.disks[n]? = t.disks[n]?
  interfaces : list = "networkInterfaces" → s.networkInterfaces[n]? = t.networkInterfaces[n]?
  metadata : list = "metadata" → s.metadata[n]? = t.metadata[n]?
  accounts : list = "serviceAccounts" → s.serviceAccounts[n]? = t.serviceAccounts[n]?

theorem SameItem.of_congr {list : String} {n : Nat} (h : SameItem list n spec spec')
    (hb : item? b.violation = some (list, n)) : b.Of spec secret ↔ b.Of spec' secret' := by
  cases b
  case smallDisk | diskType | scratchInterface | bootWithoutImage =>
    cases hb
    simp only [Breach.Of, h.disks rfl]
  case unconnected =>
    cases hb
    simp only [Breach.Of, h.interfaces rfl]
  case reservedKey =>
    cases hb
    simp only [Breach.Of, h.metadata rfl]
  case email =>
    cases hb
    simp only [Breach.Of, h.accounts rfl]
  all_goals cases hb

/-- Where in a report a violation stands, read off the violation. -/
def placeOf : Violation → Place
  | .field ⟨_, [.child "disks"]⟩ _ => ⟨0, 0, 0⟩
  | .field ⟨_, [.child "disks", .index n, .child "sizeGb"]⟩ _ => ⟨0, n, 1⟩
  | .field ⟨_, [.child "disks", .index n, .child "type"]⟩ _ => ⟨0, n, 2⟩
  | .field ⟨_, [.child "disks", .index n, .child "interface"]⟩ _ => ⟨0, n, 3⟩
  | .field ⟨_, [.child "disks", .index n, .child "image"]⟩ _ => ⟨0, n, 4⟩
  | .field ⟨_, [.child "machineType"]⟩ _ => ⟨1, 0, 0⟩
  | .field ⟨_, [.child "region"]⟩ _ => ⟨2, 0, 0⟩
  | .field ⟨_, [.child "zone"]⟩ _ => ⟨3, 0, 0⟩
  | .field ⟨_, [.child "networkInterfaces"]⟩ _ => ⟨4, 0, 0⟩
  | .field ⟨_, [.child "networkInterfaces", .index n]⟩ _ => ⟨4, n, 1⟩
  | .field ⟨_, [.child "metadata", .index n, .child "key"]⟩ _ => ⟨5, n, 1⟩
  | .field ⟨_, [.child "serviceAccounts"]⟩ _ => ⟨6, 0, 0⟩
  | .field ⟨_, [.child "serviceAccounts", .index n, .child "email"]⟩ _ => ⟨6, n, 1⟩
  | .field ⟨_, [.child "gpu", .child "acceleratorType"]⟩ _ => ⟨7, 0, 0⟩
  | .field ⟨_, [.child "gpu", .child "count"]⟩ _ => ⟨7, 0, 1⟩
  | .field ⟨_, [.child "scheduling", .child "onHostMaintenance"]⟩ (.notSupported _ _) => ⟨8, 0, 0⟩
  | .field ⟨_, [.child "scheduling", .child "onHostMaintenance"]⟩ _ => ⟨8, 0, 1⟩
  | .field _ _ => ⟨9, 0, 0⟩
  | .secret "secret object that has been passed by the orchestrator is nil" => ⟨9, 0, 0⟩
  | .secret "secret userData is required field" => ⟨9, 0, 2⟩
  | .secret _ => ⟨9, 0, 1⟩

theorem placeOf_violation (b : Breach) : placeOf b.violation = b.place := by
  cases b <;> rfl

/-! ### The report -/

theorem eq_of_ordered (hl : l.Pairwise (·.place.Before ·.place))
    (hl' : l'.Pairwise (·.place.Before ·.place)) (h : ∀ b, b ∈ l ↔ b ∈ l') : l = l' := by
  have hnodup {m : List Breach} (hm : m.Pairwise (·.place.Before ·.place)) : m.Nodup :=
    hm.imp fun hb he => hb.ne (congrArg Breach.place he)
  refine List.Perm.eq_of_pairwise (fun a b _ _ hab hba => ?_) hl hl'
    ((List.perm_ext_iff_of_nodup (hnodup hl) (hnodup hl')).mpr h)
  exact absurd rfl (hab.trans hba).ne

/-- **Nothing is reported twice.** -/
theorem nodup_violations (spec : ProviderSpec) (secret : Option Secret) :
    (violations spec secret).Nodup := by
  rw [violations_eq_map]
  refine List.pairwise_map.mpr ((within_breaches spec secret).ordered.imp fun {b b'} h he => h.ne ?_)
  rw [← placeOf_violation b, ← placeOf_violation b', he]

/-- **What is said of an item** depends on the item and on its index. -/
theorem SameItem.about_eq {list : String} {n : Nat} (h : SameItem list n spec spec')
    (secret secret' : Option Secret) :
    about list n (violations spec secret) = about list n (violations spec' secret') := by
  unfold about
  rw [violations_eq_map, violations_eq_map, List.filter_map, List.filter_map]
  refine congrArg _ (eq_of_ordered ((within_breaches spec secret).ordered.filter _)
    ((within_breaches spec' secret').ordered.filter _) fun b => ?_)
  rw [List.mem_filter, List.mem_filter, mem_breaches_iff, mem_breaches_iff]
  exact and_congr_left fun hb => h.of_congr (of_decide_eq_true hb)

/-- **The report is exact.** It is empty if everything is in order. It is made of the breaches,
each of them once, in the order of the sections, of the items and of the rules for an item, each
under its own place, and nothing in it is said twice. What it says of an item of a list is the same
for every specification that has this item at this index, whatever else is said there, and for
every secret. -/
theorem violations_exact (spec : ProviderSpec) (secret : Option Secret) :
    (violations spec secret = [] ↔ Admitted spec secret) ∧
      (∃ bs : List Breach, (∀ b, b ∈ bs ↔ b.Of spec secret) ∧
        bs.Pairwise (·.place.Before ·.place) ∧
        violations spec secret = bs.map Breach.violation) ∧
      (violations spec secret).Nodup ∧
      ∀ list n spec' secret', SameItem list n spec spec' →
        about list n (violations spec secret) = about list n (violations spec' secret') := by
  refine ⟨violations_eq_nil_iff, ⟨breaches spec secret, fun b => mem_breaches_iff, ?_, ?_⟩,
    nodup_violations spec secret, fun list n spec' secret' h => h.about_eq secret secret'⟩
  · exact (within_breaches spec secret).ordered
  · exact violations_eq_map spec secret

/-- A specification with a disk that breaks two rules, and with nothing else. -/
def lone : ProviderSpec :=
  { ProviderSpec.blank with disks := [{ Disk.blank with sizeGb := 5, type := "SCRATCH" }] }

/-- A specification with the same disk, another one, a zone and accelerators. -/
def crowded : ProviderSpec :=
  { lone with disks := lone.disks ++ [Disk.blank], gpu := some ⟨"", 0⟩, zone := "z" }

/-- The same two things are said of the first disk. -/
theorem about_first_disk :
    SameItem "disks" 0 lone crowded ∧ (about "disks" 0 (violations lone none)).length = 2 ∧
      about "disks" 0 (violations lone none) =
        about "disks" 0 (violations crowded (some .empty)) := by
  have hsame : SameItem "disks" 0 lone crowded := ⟨fun _ => rfl, by decide, by decide, by decide⟩
  obtain ⟨-, -, -, habout⟩ := violations_exact lone none
  exact ⟨hsame, by decide +kernel, habout "disks" 0 crowded (some .empty) hsame⟩

end GceMachines.Admission
