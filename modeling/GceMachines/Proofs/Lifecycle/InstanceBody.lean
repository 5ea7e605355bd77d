import Mathlib.Data.List.Forall2
import GceMachines.Lifecycle.Discovery
import GceMachines.Lifecycle.InstanceBody
import GceMachines.Proofs.Spec.Admission

/-!
# What an admitted specification is made into

The checks and the translation know nothing of one another, yet what passes the checks becomes a
body that the service can work with: every disk has what its kind needs, every interface is
connected, the accelerators are counted in 32 bits without becoming none, and the entry for the data
to start with comes before the entries of the specification, none of which is called `user-data`.

* `MakesScratch`, `MakesLasting`, `Makes`: a disk of the body for one of the specification.
* `Connects`, `Accelerates`: the same for interfaces and accelerators.
* `Renders`: a body for a specification.
* `toInt_clampCount`: a count in 32 bits.
* `renders_instanceBody`: what passes the checks is rendered.
-/

namespace GceMachines.Lifecycle

open Compute

/-! ### Parts of a body -/

/-- **A scratch disk**: the local disk of the zone behind a known interface, with no size, image or
labels of its own. -/
structure MakesScratch (zone : String) (d : Spec.Disk) (a : AttachedDisk) (p : DiskParams) :
    Prop where
  type : a.type = some "SCRATCH"
  interface : a.interface = some d.interface
  known : d.interface ∈ ["NVME", "SCSI"]
  boot : a.boot = false
  params : a.initializeParams = some p
  diskType : p.diskType = "zones/" ++ zone ++ "/diskTypes/local-ssd"
  size : p.diskSizeGb = none
  image : p.sourceImage = none
  labels : p.labels = .empty
  provisioned : p.provisionedIops = none ∧ p.provisionedThroughput = none

/-- **A disk that lasts**: of the size, the type and the labels that are asked for, with an image if
there is one, as there is on every disk to boot from, and with the performance that is asked for. -/
structure MakesLasting (zone : String) (d : Spec.Disk) (a : AttachedDisk) (p : DiskParams) :
    Prop where
  type : a.type = none
  interface : a.interface = none
  boot : a.boot = d.boot
  params : a.initializeParams = some p
  diskType : p.diskType = "zones/" ++ zone ++ "/diskTypes/" ++ d.type
  known : d.type ∈ ["pd-standard", "pd-ssd", "pd-balanced"]
  size : p.diskSizeGb = some d.sizeGb
  least : 20 ≤ d.sizeGb
  image : ∀ image, p.sourceImage = some image ↔ image = d.image ∧ image ≠ ""
  bootImage : a.boot = true → p.sourceImage ≠ none
  labels : p.labels = d.labels
  iops : ∀ n, p.provisionedIops = some n ↔ n = d.provisionedIops ∧ 0 < n
  throughput : ∀ n, p.provisionedThroughput = some n ↔ n = d.provisionedThroughput ∧ 0 < n

/-- **A disk of a body** for a disk of a specification. -/
structure Makes (zone : String) (d : Spec.Disk) (a : AttachedDisk) : Prop where
  autoDelete : a.autoDelete = d.autoDelete.getD true
  encryptionKey : a.encryptionKey = d.encryption.map encryptionKey
  scratch : d.type = "SCRATCH" → ∃ p, MakesScratch zone d a p
  lasting : d.type ≠ "SCRATCH" → ∃ p, MakesLasting zone d a p

/-- **An interface of a body** for an interface of a specification: connected to a network or a
subnetwork, and with an external address unless that is disabled. -/
structure Connects (project region : String) (i : Spec.NetworkInterface) (n : NetworkInterface) :
    Prop where
  network : ∀ url, n.network = some url ↔
    i.network ≠ "" ∧ url = "projects/" ++ project ++ "/global/networks/" ++ i.network
  subnetwork : ∀ url, n.subnetwork = some url ↔
    i.subnetwork ≠ "" ∧ url = "regions/" ++ region ++ "/subnetworks/" ++ i.subnetwork
  connected : n.network ≠ none ∨ n.subnetwork ≠ none
  external : n.accessConfigs = if i.disableExternalIp then [] else [.blank]

/-- **The accelerators of a body** for those of a specification: at least one, and as many as are
asked for if 32 bits can hold the number. -/
structure Accelerates (project zone : String) (g : Spec.Gpu) (a : Accelerator) : Prop where
  type : a.acceleratorType =
    "projects/" ++ project ++ "/zones/" ++ zone ++ "/acceleratorTypes/" ++ g.acceleratorType
  count : a.acceleratorCount.toInt = min g.count.toInt 2147483647
  least : 1 ≤ a.acceleratorCount.toInt

/-- **A body for a specification and a secret.** -/
structure Renders (name project : String) (spec : ProviderSpec) (secret : Secret)
    (body : Instance) : Prop where
  called : body.name = name
  machineType : body.machineType = "zones/" ++ spec.zone ++ "/machineTypes/" ++ spec.machineType
  labels : body.labels = spec.labels
  someDisk : body.disks ≠ []
  disks : List.Forall₂ (Makes spec.zone) spec.disks body.disks
  interfaces :
    List.Forall₂ (Connects project spec.region) spec.networkInterfaces body.networkInterfaces
  scheduling : body.scheduling = some
    ⟨some spec.scheduling.automaticRestart, some spec.scheduling.onHostMaintenance,
      spec.scheduling.preemptible⟩
  noAccelerator : spec.gpu = none → body.guestAccelerators = []
  accelerator : ∀ g, spec.gpu = some g → spec.scheduling.onHostMaintenance = "TERMINATE" ∧
    ∃ a, body.guestAccelerators = [a] ∧ Accelerates project spec.zone g a
  metadata : ∃ data items, secret.get? "userData" = some data ∧
    body.metadata = some ⟨bootstrapItem (Utf8.decodeLossy data) :: items, none⟩ ∧
    items = spec.metadata.map (fun m => ⟨m.key, m.value⟩) ∧ ∀ m ∈ items, m.key ≠ "user-data"
  tags : body.tagItems = spec.tags
  owned : ∀ s : Search, s.wants body = true ↔
    (∀ n ∈ s.name, n = name) ∧ Markers.ofTags spec.tags = ⟨some s.cluster, some s.role⟩

variable {name project zone region : String} {spec : ProviderSpec} {secret : Secret}

/-! ### Texts and numbers -/

theorem nonEmpty_eq_some_iff {s t : String} : nonEmpty s = some t ↔ t = s ∧ t ≠ "" := by
  unfold nonEmpty
  split
  · next h =>
    refine iff_of_false nofun ?_
    rintro ⟨rfl, hne⟩
    exact hne (String.isEmpty_iff.mp h)
  · next h =>
    constructor
    · intro hs
      cases hs
      exact ⟨rfl, fun he => h (String.isEmpty_iff.mpr he)⟩
    · rintro ⟨rfl, -⟩
      rfl

theorem nonEmpty_map_eq_some_iff {s url : String} {f : String → String} :
    (nonEmpty s).map f = some url ↔ s ≠ "" ∧ url = f s := by
  rw [Option.map_eq_some_iff]
  constructor
  · rintro ⟨t, ht, rfl⟩
    obtain ⟨rfl, hne⟩ := nonEmpty_eq_some_iff.mp ht
    exact ⟨hne, rfl⟩
  · rintro ⟨hne, rfl⟩
    exact ⟨s, nonEmpty_eq_some_iff.mpr ⟨rfl, hne⟩, rfl⟩

theorem positive_eq_some_iff {n k : Int64} : positive n = some k ↔ k = n ∧ 0 < k := by
  unfold positive
  split
  · next h =>
    constructor
    · intro hk
      cases hk
      exact ⟨rfl, h⟩
    · rintro ⟨rfl, -⟩
      rfl
  · next h =>
    refine iff_of_false nofun ?_
    rintro ⟨rfl, hk⟩
    exact h hk

/-- **A count in 32 bits**: a positive count that does not fit becomes the largest one that does. -/
theorem toInt_clampCount {n : Int64} (h : 0 < n) :
    (clampCount n).toInt = min n.toInt 2147483647 := by
  have hpos : 0 < n.toInt := Int64.lt_iff_toInt_lt.mp h
  unfold clampCount
  rw [Int32.toInt_minValue, Int32.toInt_maxValue]
  split
  · next hfits =>
    rw [Bool.and_eq_true, decide_eq_true_eq, decide_eq_true_eq] at hfits
    rw [Int32.toInt_ofInt_of_le hfits.1 (by omega), Int.min_eq_left (by omega)]
  · next hlarge =>
    rw [Bool.and_eq_true, decide_eq_true_eq, decide_eq_true_eq] at hlarge
    rw [Int32.toInt_maxValue, Int.min_eq_right (by omega)]
    rfl

/-! ### The parts are rendered -/

theorem makes_attachedDisk {d : Spec.Disk} (hsize : 20 ≤ d.sizeGb)
    (htype : d.type ∈ ["pd-standard", "pd-ssd", "SCRATCH", "pd-balanced"])
    (hinterface : d.type = "SCRATCH" → d.interface ∈ ["NVME", "SCSI"])
    (himage : d.boot = true → d.image ≠ "") : Makes zone d (attachedDisk zone d) := by
  by_cases hscratch : d.type = "SCRATCH"
  · have hkind : d.isScratch = true := beq_iff_eq.mpr hscratch
    unfold attachedDisk
    rw [if_pos hkind]
    exact ⟨rfl, rfl, fun _ => ⟨_, {
      type := congrArg some hscratch
      interface := rfl
      known := hinterface hscratch
      boot := rfl
      params := rfl
      diskType := String.append_assoc
      size := rfl
      image := rfl
      labels := rfl
      provisioned := ⟨rfl, rfl⟩ }⟩, (absurd hscratch ·)⟩
  · have hkind : ¬ d.isScratch = true := fun hk => hscratch (beq_iff_eq.mp hk)
    have hbootImage (hboot : d.boot = true) : nonEmpty d.image ≠ none :=
      Option.ne_none_iff_exists'.mpr ⟨d.image, nonEmpty_eq_some_iff.mpr ⟨rfl, himage hboot⟩⟩
    unfold attachedDisk
    rw [if_neg hkind]
    exact ⟨rfl, rfl, (absurd · hscratch), fun _ => ⟨_, {
      type := rfl
      interface := rfl
      boot := rfl
      params := rfl
      diskType := rfl
      known := by simpa [hscratch] using htype
      size := rfl
      least := hsize
      image := fun _ => nonEmpty_eq_some_iff
      bootImage := hbootImage
      labels := rfl
      iops := fun _ => positive_eq_some_iff
      throughput := fun _ => positive_eq_some_iff }⟩⟩

theorem connects_networkInterface {i : Spec.NetworkInterface}
    (h : i.network ≠ "" ∨ i.subnetwork ≠ "") :
    Connects project region i (networkInterface project region i) where
  network _ := nonEmpty_map_eq_some_iff
  subnetwork _ := nonEmpty_map_eq_some_iff
  connected := by
    refine h.imp (fun hne => ?_) fun hne => ?_
    · exact Option.ne_none_iff_exists'.mpr ⟨_, nonEmpty_map_eq_some_iff.mpr ⟨hne, rfl⟩⟩
    · exact Option.ne_none_iff_exists'.mpr ⟨_, nonEmpty_map_eq_some_iff.mpr ⟨hne, rfl⟩⟩
  external := rfl

theorem accelerates_accelerator {g : Spec.Gpu} (h : 0 < g.count) :
    Accelerates project zone g (accelerator project zone g) where
  type := rfl
  count := toInt_clampCount h
  least := by
    have hpos : 0 < g.count.toInt := Int64.lt_iff_toInt_lt.mp h
    have hcount : (accelerator project zone g).acceleratorCount.toInt =
      min g.count.toInt 2147483647 := toInt_clampCount h
    rw [hcount]
    omega

/-! ### The body -/

/-- **What passes the checks is rendered.** -/
theorem renders_instanceBody (name project : String)
    (h : Admission.check spec (some secret) = .ok ()) :
    Renders name project spec secret (instanceBody name project spec secret.userData) := by
  have hadmitted := Admission.violations_eq_nil_iff.mp (Admission.check_eq_ok_iff.mp h)
  obtain ⟨secret', hs, -, hcontains⟩ := hadmitted.secret
  cases hs
  obtain ⟨data, hdata⟩ := Option.isSome_iff_exists.mp hcontains
  have huser : secret.userData = Utf8.decodeLossy data := by
    show ((secret.get? "userData").map Utf8.decodeLossy).getD "" = _
    rw [hdata]
    rfl
  exact {
    called := rfl
    machineType := rfl
    labels := rfl
    someDisk := fun hnil => hadmitted.disks (List.map_eq_nil_iff.mp hnil)
    disks := List.forall₂_map_right_iff.mpr <| List.forall₂_same.mpr fun d hd => by
      obtain ⟨hsize, htype, hinterface, himage⟩ := hadmitted.disk d hd
      exact makes_attachedDisk hsize htype hinterface himage
    interfaces := List.forall₂_map_right_iff.mpr <| List.forall₂_same.mpr fun i hi =>
      connects_networkInterface (hadmitted.interface i hi)
    scheduling := rfl
    noAccelerator := fun hgpu => by
      unfold instanceBody
      rw [hgpu]
      rfl
    accelerator := fun g hg => by
      refine ⟨hadmitted.maintenanceWithGpu (hg ▸ Option.some_ne_none g),
        accelerator project spec.zone g, ?_, accelerates_accelerator (hadmitted.gpu g hg).2⟩
      unfold instanceBody
      rw [hg]
      rfl
    metadata := by
      refine ⟨data, _, hdata, ?_, rfl, ?_⟩
      · unfold instanceBody
        rw [huser]
      · intro m hm
        obtain ⟨m', hm', rfl⟩ := List.mem_map.mp hm
        exact hadmitted.metadata m' hm'
    tags := rfl
    owned := fun s => by
      unfold Search.wants
      rw [Bool.and_eq_true, decide_eq_true_eq, Option.all_eq_true]
      simp only [decide_eq_true_eq]
      rfl }

/-- A specification with a disk to boot from, a scratch disk and more accelerators than 32 bits can
count. -/
def workstation : ProviderSpec :=
  { ProviderSpec.blank with
    disks := [
      { Spec.Disk.blank with boot := true, sizeGb := 50, type := "pd-ssd", image := "cos" },
      { Spec.Disk.blank with sizeGb := 375, type := "SCRATCH", interface := "NVME" }]
    gpu := some ⟨"t4", 3000000000⟩
    machineType := "n1-standard-4"
    metadata := [⟨"team", none⟩]
    networkInterfaces := [⟨true, "", "nodes"⟩]
    region := "r"
    scheduling := ⟨false, "TERMINATE", false⟩
    serviceAccounts := [⟨"vm@p.iam", []⟩]
    zone := "z" }

/-- A secret with credentials and data to start with. -/
def workstationSecret : Secret :=
  SortedMap.ofList [("credentialsConfig", []), ("userData", [104, 105])]

/-- It passes the checks and is rendered, with the largest count. -/
theorem renders_workstation :
    Admission.check workstation (some workstationSecret) = .ok () ∧
      Renders "a" "p" workstation workstationSecret
        (instanceBody "a" "p" workstation workstationSecret.userData) ∧
      (instanceBody "a" "p" workstation workstationSecret.userData).guestAccelerators.map
        Accelerator.acceleratorCount = [2147483647] := by
  have hcheck : Admission.check workstation (some workstationSecret) = .ok () :=
    Admission.check_eq_ok_iff.mpr (by decide +kernel)
  exact ⟨hcheck, renders_instanceBody "a" "p" hcheck, by decide⟩

end GceMachines.Lifecycle
