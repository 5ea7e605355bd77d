import GceMachines.Proofs.Machine.Secret
import GceMachines.Spec.Admission

/-!
# What breaks a rule

The rules for specifications and secrets, said one by one and apart from the checks. A breach is a
rule together with what breaks it, which for a rule about the items of a list is one item. The
report of the checks is made of the breaches, and it is empty if everything is in order.

* `Admitted`: a specification and a secret in which everything is in order.
* `Breach`, `Breach.Of`: the breaches of a specification and a secret.
* `Breach.violation`: how a breach is reported.
* `breaches`: the breaches as the checks come upon them.
* `violations_eq_map`, `mem_breaches_iff`: the report is made of them, and they are all there are.
* `violations_eq_nil_iff`: when there is nothing to report.
* `exists_admitted`: what a specification alone must be like.
-/

namespace GceMachines.Admission

open Spec

/-- **A specification and a secret in which everything is in order.** -/
structure Admitted (spec : ProviderSpec) (secret : Option Secret) : Prop where
  disks : spec.disks ≠ []
  disk : ∀ d ∈ spec.disks, 20 ≤ d.sizeGb ∧
    d.type ∈ ["pd-standard", "pd-ssd", "SCRATCH", "pd-balanced"] ∧
    (d.type = "SCRATCH" → d.interface ∈ ["NVME", "SCSI"]) ∧ (d.boot = true → d.image ≠ "")
  machineType : spec.machineType ≠ ""
  region : spec.region ≠ ""
  zone : spec.zone ≠ ""
  interfaces : spec.networkInterfaces ≠ []
  interface : ∀ i ∈ spec.networkInterfaces, i.network ≠ "" ∨ i.subnetwork ≠ ""
  metadata : ∀ m ∈ spec.metadata, m.key ≠ "user-data"
  accounts : spec.serviceAccounts ≠ []
  account : ∀ a ∈ spec.serviceAccounts, Email.isAddress a.email = true
  gpu : ∀ g, spec.gpu = some g → g.acceleratorType ≠ "" ∧ 0 < g.count
  maintenance : spec.scheduling.onHostMaintenance ∈ ["MIGRATE", "TERMINATE"]
  maintenanceWithGpu : spec.gpu ≠ none → spec.scheduling.onHostMaintenance = "TERMINATE"
  secret : ∃ s, secret = some s ∧ (∃ k : CredentialKey, s.contains k.text = true) ∧
    s.contains "userData" = true

/-! ### Breaches -/

/-- **A rule that is broken**, with the item that breaks it and its index if it is a rule for the
items of a list. -/
inductive Breach
  | noDisk
  | smallDisk (n : Nat) (d : Disk)
  | diskType (n : Nat) (d : Disk)
  | scratchInterface (n : Nat) (d : Disk)
  | bootWithoutImage (n : Nat) (d : Disk)
  | noMachineType
  | noRegion
  | noZone
  | noInterface
  | unconnected (n : Nat) (i : NetworkInterface)
  | reservedKey (n : Nat) (m : MetadataItem)
  | noAccount
  | email (n : Nat) (a : ServiceAccount)
  | noAcceleratorType
  | noAccelerator
  | maintenance (mode : String)
  | maintenanceWithGpu
  | noSecret
  | noCredentials
  | noUserData

namespace Breach

/-- **The breaches of a specification and a secret.** -/
def Of (spec : ProviderSpec) (secret : Option Secret) : Breach → Prop
  | noDisk => spec.disks = []
  | smallDisk n d => spec.disks[n]? = some d ∧ d.sizeGb < 20
  | diskType n d =>
    spec.disks[n]? = some d ∧ d.type ∉ ["pd-standard", "pd-ssd", "SCRATCH", "pd-balanced"]
  | scratchInterface n d =>
    spec.disks[n]? = some d ∧ d.type = "SCRATCH" ∧ d.interface ∉ ["NVME", "SCSI"]
  | bootWithoutImage n d => spec.disks[n]? = some d ∧ d.boot = true ∧ d.image = ""
  | noMachineType => spec.machineType = ""
  | noRegion => spec.region = ""
  | noZone => spec.zone = ""
  | noInterface => spec.networkInterfaces = []
  | unconnected n i => spec.networkInterfaces[n]? = some i ∧ i.network = "" ∧ i.subnetwork = ""
  | reservedKey n m => spec.metadata[n]? = some m ∧ m.key = "user-data"
  | noAccount => spec.serviceAccounts = []
  | email n a => spec.serviceAccounts[n]? = some a ∧ Email.isAddress a.email = false
  | noAcceleratorType => ∃ g, spec.gpu = some g ∧ g.acceleratorType = ""
  | noAccelerator => ∃ g, spec.gpu = some g ∧ g.count ≤ 0
  | maintenance mode =>
    spec.scheduling.onHostMaintenance = mode ∧ mode ∉ ["MIGRATE", "TERMINATE"]
  | maintenanceWithGpu => spec.gpu ≠ none ∧ spec.scheduling.onHostMaintenance ≠ "TERMINATE"
  | noSecret => secret = none
  | noCredentials => ∃ s, secret = some s ∧ ∀ k : CredentialKey, s.contains k.text = false
  | noUserData => ∃ s, secret = some s ∧ s.contains "userData" = false

/-- The place of an item of a list. -/
def itemPath (list : String) (n : Nat) : FieldPath := (root.child list).index n

/-- **How a breach is reported**, under the place of the field that is wrong. -/
def violation : Breach → Violation
  | noDisk => .field (root.child "disks") (.required "at least one disk is required")
  | smallDisk n d => .field ((itemPath "disks" n).child "sizeGb")
      (.invalid (toString d.sizeGb.toInt) "disk size must be at least 20 GB")
  | diskType n d => .field ((itemPath "disks" n).child "type")
      (.notSupported d.type ["pd-standard", "pd-ssd", "SCRATCH", "pd-balanced"])
  | scratchInterface n d => .field ((itemPath "disks" n).child "interface")
      (.notSupported d.interface ["NVME", "SCSI"])
  | bootWithoutImage n _ => .field ((itemPath "disks" n).child "image")
      (.required "image is required for boot disk")
  | noMachineType => .field (root.child "machineType") (.required "machineType is required")
  | noRegion => .field (root.child "region") (.required "region is required")
  | noZone => .field (root.child "zone") (.required "zone is required")
  | noInterface => .field (root.child "networkInterfaces")
      (.required "at least one network interface is required")
  | unconnected n _ => .field (itemPath "networkInterfaces" n)
      (.required "either network or subnetwork or both is required")
  | reservedKey n _ => .field ((itemPath "metadata" n).child "key")
      (.forbidden "user-data key is forbidden in metadata")
  | noAccount => .field (root.child "serviceAccounts")
      (.required "at least one service account is required")
  | email n a => .field ((itemPath "serviceAccounts" n).child "email")
      (.invalid (Text.quoted a.email) "email address is of invalid format")
  | noAcceleratorType => .field ((root.child "gpu").child "acceleratorType")
      (.required "accelerator type needs to be provided")
  | noAccelerator => .field ((root.child "gpu").child "count")
      (.forbidden "gpu count must be > 0")
  | maintenance mode => .field ((root.child "scheduling").child "onHostMaintenance")
      (.notSupported mode ["MIGRATE", "TERMINATE"])
  | maintenanceWithGpu => .field ((root.child "scheduling").child "onHostMaintenance")
      (.forbidden
        "liveMigration is not allowed for VMs with gpu attached, use \"TERMINATE\" instead")
  | noSecret => .secret "secret object that has been passed by the orchestrator is nil"
  | noCredentials => .secret ("secret serviceAccountJSON, serviceaccount.json or " ++
      "credentialsConfig is required field")
  | noUserData => .secret "secret userData is required field"

end Breach

/-! ### Finding breaches -/

/-- A breach, if its rule is broken. -/
def found (broken : Bool) (b : Breach) : List Breach := if broken then [b] else []

/-- The breaches of the items of a list. -/
def eachFound {α : Type} (find : Nat → α → List Breach) (as : List α) : List Breach :=
  as.zipIdx.flatMap fun (a, n) => find n a

/-- The breaches of a disk. -/
def diskBreaches (n : Nat) (d : Disk) : List Breach :=
  found (d.sizeGb < minDiskSizeGb) (.smallDisk n d) ++
  found (d.type ∉ diskTypes) (.diskType n d) ++
  found (d.isScratch && d.interface ∉ diskInterfaces) (.scratchInterface n d) ++
  found (d.boot && d.image.isEmpty) (.bootWithoutImage n d)

/-- The breaches of a network interface. -/
def interfaceBreaches (n : Nat) (i : NetworkInterface) : List Breach :=
  found (i.network.isEmpty && i.subnetwork.isEmpty) (.unconnected n i)

/-- The breaches of a metadata entry. -/
def metadataBreaches (n : Nat) (m : MetadataItem) : List Breach :=
  found (m.key == forbiddenMetadataKey) (.reservedKey n m)

/-- The breaches of a service account. -/
def accountBreaches (n : Nat) (a : ServiceAccount) : List Breach :=
  found (!Email.isAddress a.email) (.email n a)

/-- The breaches of accelerators. -/
def gpuBreaches : Option Gpu → List Breach
  | none => []
  | some g => found g.acceleratorType.isEmpty .noAcceleratorType ++ found (g.count ≤ 0) .noAccelerator

/-- The breaches of scheduling. -/
def schedulingBreaches (withGpu : Bool) (s : Scheduling) : List Breach :=
  found (s.onHostMaintenance ∉ maintenanceModes) (.maintenance s.onHostMaintenance) ++
  found (withGpu && s.onHostMaintenance != terminate) .maintenanceWithGpu

/-- The breaches of a secret. -/
def secretBreaches : Option Secret → List Breach
  | none => [.noSecret]
  | some s =>
    found (!CredentialKey.order.any fun k => s.contains k.text) .noCredentials ++
    found (!s.contains Secret.userDataKey) .noUserData

/-- **The breaches of a specification and a secret**, in the order of the report. -/
def breaches (spec : ProviderSpec) (secret : Option Secret) : List Breach :=
  found spec.disks.isEmpty .noDisk ++
  eachFound diskBreaches spec.disks ++
  found spec.machineType.isEmpty .noMachineType ++
  found spec.region.isEmpty .noRegion ++
  found spec.zone.isEmpty .noZone ++
  found spec.networkInterfaces.isEmpty .noInterface ++
  eachFound interfaceBreaches spec.networkInterfaces ++
  eachFound metadataBreaches spec.metadata ++
  found spec.serviceAccounts.isEmpty .noAccount ++
  eachFound accountBreaches spec.serviceAccounts ++
  gpuBreaches spec.gpu ++
  schedulingBreaches spec.gpu.isSome spec.scheduling ++
  secretBreaches secret

variable {spec : ProviderSpec} {secret : Option Secret} {b b' : Breach}

/-! ### The report is made of them -/

theorem map_found (broken : Bool) {p : FieldPath} {f : FieldFault} (h : b.violation = .field p f) :
    (found broken b).map Breach.violation = rule broken p f := by
  unfold found rule
  cases broken with
  | false => rfl
  | true => simp [h]

theorem map_eachFound {α : Type} {find : Nat → α → List Breach} {list : String}
    {check : FieldPath → α → List Violation}
    (h : ∀ n a, (find n a).map Breach.violation = check (Breach.itemPath list n) a) (as : List α) :
    (eachFound find as).map Breach.violation = eachItem check (root.child list) as := by
  unfold eachFound eachItem
  rw [List.map_flatMap]
  exact congrArg (List.flatMap · _) (funext fun e => h e.2 e.1)

theorem map_diskBreaches (n : Nat) (d : Disk) : (diskBreaches n d).map Breach.violation =
    diskViolations (Breach.itemPath "disks" n) d := by
  unfold diskBreaches diskViolations
  simp only [List.map_append]
  rw [map_found _ rfl, map_found _ rfl, map_found _ rfl, map_found _ rfl]
  rfl

theorem map_secretBreaches (secret : Option Secret) :
    (secretBreaches secret).map Breach.violation = secretViolations secret := by
  cases secret with
  | none => rfl
  | some s =>
    unfold secretBreaches secretViolations found
    rw [List.map_append]
    congr 1
    · cases CredentialKey.order.any fun k => s.contains k.text <;> decide
    · cases s.contains Secret.userDataKey <;> decide

theorem map_gpuBreaches (gpu : Option Gpu) :
    (gpuBreaches gpu).map Breach.violation = gpuViolations (root.child "gpu") gpu := by
  cases gpu with
  | none => rfl
  | some g =>
    unfold gpuBreaches gpuViolations
    rw [List.map_append, map_found _ rfl, map_found _ rfl]

theorem map_schedulingBreaches (withGpu : Bool) (s : Scheduling) :
    (schedulingBreaches withGpu s).map Breach.violation =
      schedulingViolations (root.child "scheduling") withGpu s := by
  unfold schedulingBreaches schedulingViolations
  rw [List.map_append, map_found _ rfl, map_found _ rfl]
  rfl

theorem map_interfaceBreaches (n : Nat) (i : NetworkInterface) :
    (interfaceBreaches n i).map Breach.violation =
      interfaceViolations (Breach.itemPath "networkInterfaces" n) i :=
  map_found _ rfl

theorem map_metadataBreaches (n : Nat) (m : MetadataItem) :
    (metadataBreaches n m).map Breach.violation =
      metadataViolations (Breach.itemPath "metadata" n) m :=
  map_found _ rfl

theorem map_accountBreaches (n : Nat) (a : ServiceAccount) :
    (accountBreaches n a).map Breach.violation =
      accountViolations (Breach.itemPath "serviceAccounts" n) a :=
  map_found _ rfl

/-- **The report is made of the breaches.** -/
theorem violations_eq_map (spec : ProviderSpec) (secret : Option Secret) :
    violations spec secret = (breaches spec secret).map Breach.violation := by
  unfold violations breaches specViolations
  simp only [List.map_append]
  rw [map_eachFound map_diskBreaches, map_eachFound map_interfaceBreaches,
    map_eachFound map_metadataBreaches, map_eachFound map_accountBreaches,
    map_gpuBreaches, map_schedulingBreaches, map_secretBreaches]
  rw [map_found _ rfl, map_found _ rfl, map_found _ rfl, map_found _ rfl, map_found _ rfl,
    map_found _ rfl]

/-! ### They are all there are -/

theorem mem_found {broken : Bool} : b ∈ found broken b' ↔ broken = true ∧ b = b' := by
  unfold found
  cases broken <;> simp

theorem mem_eachFound {α : Type} {find : Nat → α → List Breach} {as : List α} :
    b ∈ eachFound find as ↔ ∃ n a, as[n]? = some a ∧ b ∈ find n a := by
  unfold eachFound
  rw [List.mem_flatMap]
  constructor
  · rintro ⟨⟨a, n⟩, he, hb⟩
    exact ⟨n, a, List.mk_mem_zipIdx_iff_getElem?.mp he, hb⟩
  · rintro ⟨n, a, he, hb⟩
    exact ⟨(a, n), List.mk_mem_zipIdx_iff_getElem?.mpr he, hb⟩

theorem mem_diskBreaches {n : Nat} {d : Disk} : b ∈ diskBreaches n d ↔
    d.sizeGb < 20 ∧ b = .smallDisk n d ∨
    d.type ∉ ["pd-standard", "pd-ssd", "SCRATCH", "pd-balanced"] ∧ b = .diskType n d ∨
    (d.type = "SCRATCH" ∧ d.interface ∉ ["NVME", "SCSI"]) ∧ b = .scratchInterface n d ∨
    (d.boot = true ∧ d.image = "") ∧ b = .bootWithoutImage n d := by
  unfold diskBreaches
  simp only [List.mem_append, mem_found, or_assoc, decide_eq_true_eq, Bool.and_eq_true,
    Disk.isScratch, beq_iff_eq, String.isEmpty_iff]
  rfl

theorem mem_interfaceBreaches {n : Nat} {i : NetworkInterface} : b ∈ interfaceBreaches n i ↔
    (i.network = "" ∧ i.subnetwork = "") ∧ b = .unconnected n i := by
  unfold interfaceBreaches
  rw [mem_found, Bool.and_eq_true, String.isEmpty_iff, String.isEmpty_iff]

theorem mem_metadataBreaches {n : Nat} {m : MetadataItem} : b ∈ metadataBreaches n m ↔
    m.key = "user-data" ∧ b = .reservedKey n m := by
  unfold metadataBreaches
  rw [mem_found, beq_iff_eq]
  rfl

theorem mem_accountBreaches {n : Nat} {a : ServiceAccount} : b ∈ accountBreaches n a ↔
    Email.isAddress a.email = false ∧ b = .email n a := by
  unfold accountBreaches
  rw [mem_found, Bool.not_eq_true']

theorem mem_gpuBreaches {gpu : Option Gpu} : b ∈ gpuBreaches gpu ↔ ∃ g, gpu = some g ∧
    (g.acceleratorType = "" ∧ b = .noAcceleratorType ∨ g.count ≤ 0 ∧ b = .noAccelerator) := by
  unfold gpuBreaches
  cases gpu with
  | none => simp
  | some g => simp [mem_found]

theorem mem_schedulingBreaches {gpu : Option Gpu} {s : Scheduling} :
    b ∈ schedulingBreaches gpu.isSome s ↔
      s.onHostMaintenance ∉ ["MIGRATE", "TERMINATE"] ∧ b = .maintenance s.onHostMaintenance ∨
      (gpu ≠ none ∧ s.onHostMaintenance ≠ "TERMINATE") ∧ b = .maintenanceWithGpu := by
  unfold schedulingBreaches
  simp only [List.mem_append, mem_found, decide_eq_true_eq, Bool.and_eq_true, bne_iff_ne,
    Option.isSome_iff_ne_none]
  rfl

theorem mem_secretBreaches : b ∈ secretBreaches secret ↔
    secret = none ∧ b = .noSecret ∨ ∃ s, secret = some s ∧
      ((∀ k : CredentialKey, s.contains k.text = false) ∧ b = .noCredentials ∨
        s.contains "userData" = false ∧ b = .noUserData) := by
  have horder (k : CredentialKey) : k ∈ CredentialKey.order := by cases k <;> decide
  unfold secretBreaches
  cases secret with
  | none => simp
  | some s => simp [mem_found, horder, Secret.userDataKey]

theorem exists_item_iff {α : Type} {as : List α} {P : α → Prop} {n : Nat} {a : α} :
    (∃ n' a', as[n']? = some a' ∧ P a' ∧ n = n' ∧ a = a') ↔ as[n]? = some a ∧ P a := by
  constructor
  · rintro ⟨n', a', ha, hP, rfl, rfl⟩
    exact ⟨ha, hP⟩
  · rintro ⟨ha, hP⟩
    exact ⟨n, a, ha, hP, rfl, rfl⟩

/-- **What is found are the breaches.** -/
theorem mem_breaches_iff : b ∈ breaches spec secret ↔ b.Of spec secret := by
  unfold breaches
  simp only [List.mem_append, mem_found, mem_eachFound, mem_diskBreaches, mem_interfaceBreaches,
    mem_metadataBreaches, mem_accountBreaches, mem_gpuBreaches, mem_schedulingBreaches,
    mem_secretBreaches, List.isEmpty_iff, String.isEmpty_iff]
  cases b with
  | maintenance mode =>
    simp only [Breach.Of, reduceCtorEq, and_false, exists_false, false_or, or_false,
      Breach.maintenance.injEq]
    constructor
    · rintro ⟨hmode, rfl⟩
      exact ⟨rfl, hmode⟩
    · rintro ⟨rfl, hmode⟩
      exact ⟨hmode, rfl⟩
  | smallDisk | diskType | scratchInterface | bootWithoutImage | unconnected | reservedKey | email =>
    simp only [Breach.Of, reduceCtorEq, and_false, exists_false, false_or, or_false,
      Breach.smallDisk.injEq, Breach.diskType.injEq, Breach.scratchInterface.injEq,
      Breach.bootWithoutImage.injEq, Breach.unconnected.injEq, Breach.reservedKey.injEq,
      Breach.email.injEq]
    exact exists_item_iff
  | _ => simp [Breach.Of]

/-! ### Nothing to report -/

theorem Admitted.not_of (h : Admitted spec secret) (b : Breach) : ¬ b.Of spec secret := by
  intro hb
  cases b with
  | noDisk => exact h.disks hb
  | smallDisk n d =>
    obtain ⟨hd, hsize⟩ := hb
    exact Int64.not_le.mpr hsize (h.disk d (List.mem_of_getElem? hd)).1
  | diskType n d => exact hb.2 (h.disk d (List.mem_of_getElem? hb.1)).2.1
  | scratchInterface n d =>
    obtain ⟨hd, htype, hinterface⟩ := hb
    exact hinterface ((h.disk d (List.mem_of_getElem? hd)).2.2.1 htype)
  | bootWithoutImage n d =>
    obtain ⟨hd, hboot, himage⟩ := hb
    exact (h.disk d (List.mem_of_getElem? hd)).2.2.2 hboot himage
  | noMachineType => exact h.machineType hb
  | noRegion => exact h.region hb
  | noZone => exact h.zone hb
  | noInterface => exact h.interfaces hb
  | unconnected n i =>
    obtain ⟨hi, hnetwork, hsubnetwork⟩ := hb
    exact (h.interface i (List.mem_of_getElem? hi)).elim (· hnetwork) (· hsubnetwork)
  | reservedKey n m => exact h.metadata m (List.mem_of_getElem? hb.1) hb.2
  | noAccount => exact h.accounts hb
  | email n a => exact ne_true_of_eq_false hb.2 (h.account a (List.mem_of_getElem? hb.1))
  | noAcceleratorType =>
    obtain ⟨g, hg, htype⟩ := hb
    exact (h.gpu g hg).1 htype
  | noAccelerator =>
    obtain ⟨g, hg, hcount⟩ := hb
    exact Int64.not_le.mpr (h.gpu g hg).2 hcount
  | maintenance mode =>
    obtain ⟨rfl, hmode⟩ := hb
    exact hmode h.maintenance
  | maintenanceWithGpu => exact hb.2 (h.maintenanceWithGpu hb.1)
  | noSecret =>
    obtain ⟨s, hs, -⟩ := h.secret
    cases hb.symm.trans hs
  | noCredentials =>
    obtain ⟨s, hs, ⟨k, hk⟩, -⟩ := h.secret
    obtain ⟨s', hs', hnone⟩ := hb
    cases hs.symm.trans hs'
    exact ne_true_of_eq_false (hnone k) hk
  | noUserData =>
    obtain ⟨s, hs, -, hdata⟩ := h.secret
    obtain ⟨s', hs', hnone⟩ := hb
    cases hs.symm.trans hs'
    exact ne_true_of_eq_false hnone hdata

theorem admitted_of_not_of (h : ∀ b : Breach, ¬ b.Of spec secret) : Admitted spec secret where
  disks := h .noDisk
  disk d hd := by
    obtain ⟨n, hn⟩ := List.mem_iff_getElem?.mp hd
    exact ⟨Int64.not_lt.mp fun hsize => h (.smallDisk n d) ⟨hn, hsize⟩,
      Decidable.not_not.mp fun htype => h (.diskType n d) ⟨hn, htype⟩,
      fun hscratch => Decidable.not_not.mp fun hinterface =>
        h (.scratchInterface n d) ⟨hn, hscratch, hinterface⟩,
      fun hboot himage => h (.bootWithoutImage n d) ⟨hn, hboot, himage⟩⟩
  machineType := h .noMachineType
  region := h .noRegion
  zone := h .noZone
  interfaces := h .noInterface
  interface i hi := by
    obtain ⟨n, hn⟩ := List.mem_iff_getElem?.mp hi
    exact Decidable.not_and_iff_or_not.mp fun hnone => h (.unconnected n i) ⟨hn, hnone⟩
  metadata m hm := by
    obtain ⟨n, hn⟩ := List.mem_iff_getElem?.mp hm
    exact fun hkey => h (.reservedKey n m) ⟨hn, hkey⟩
  accounts := h .noAccount
  account a ha := by
    obtain ⟨n, hn⟩ := List.mem_iff_getElem?.mp ha
    exact eq_true_of_ne_false fun hemail => h (.email n a) ⟨hn, hemail⟩
  gpu g hg := ⟨fun htype => h .noAcceleratorType ⟨g, hg, htype⟩,
    Int64.not_le.mp fun hcount => h .noAccelerator ⟨g, hg, hcount⟩⟩
  maintenance := Decidable.not_not.mp fun hmode => h (.maintenance _) ⟨rfl, hmode⟩
  maintenanceWithGpu hgpu :=
    Decidable.not_not.mp fun hmode => h .maintenanceWithGpu ⟨hgpu, hmode⟩
  secret := by
    obtain ⟨s, rfl⟩ := Option.ne_none_iff_exists'.mp (h .noSecret)
    refine ⟨s, rfl, ?_, eq_true_of_ne_false fun hdata => h .noUserData ⟨s, rfl, hdata⟩⟩
    refine Classical.not_forall_not.mp fun hnone => h .noCredentials ⟨s, rfl, fun k => ?_⟩
    exact eq_false_of_ne_true (hnone k)

/-- **Everything is in order** exactly if nothing is reported. -/
theorem violations_eq_nil_iff : violations spec secret = [] ↔ Admitted spec secret := by
  rw [violations_eq_map, List.map_eq_nil_iff, List.eq_nil_iff_forall_not_mem]
  simp only [mem_breaches_iff]
  exact ⟨admitted_of_not_of, Admitted.not_of⟩

/-- **A specification that breaks no rule** is in order with some secret. -/
theorem exists_admitted (h : specViolations spec = []) : ∃ secret, Admitted spec secret := by
  obtain ⟨secret, hsecret⟩ : ∃ secret, secretViolations secret = [] :=
    ⟨some (SortedMap.ofList [("credentialsConfig", []), ("userData", [])]), by decide +kernel⟩
  have hnone : violations spec secret = [] := by
    rw [violations, h, hsecret]
    rfl
  exact ⟨secret, violations_eq_nil_iff.mp hnone⟩

end GceMachines.Admission
