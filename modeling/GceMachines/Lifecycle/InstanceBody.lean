import GceMachines.Compute.Instance
import GceMachines.Spec.Basic
import GceMachines.Text.Blank
import GceMachines.Text.Split

/-!
# From a specification to an instance

The body of the call that makes a machine. Short names of the specification become paths in the
project, the zone or the region, and the data a machine starts with becomes the first metadata
entry.

* `bootstrapItem`: that first entry.
* `instanceBody`: the whole body.
-/

namespace GceMachines.Lifecycle

open Compute

/-- What a cloud-init document begins with. -/
def cloudConfigMark : String := "#cloud-config"

/-- The metadata key for data to start with: cloud-init documents have their own, everything else
is run as a script. -/
def bootstrapKey (userData : String) : String :=
  if Text.startsWith userData cloudConfigMark then "user-data" else "startup-script"

/-- The metadata entry for the data to start with. -/
def bootstrapItem (userData : String) : MetadataItem := ⟨bootstrapKey userData, some userData⟩

/-- A text, unless it is empty. -/
def nonEmpty (s : String) : Option String := if s.isEmpty then none else some s

/-- The encryption key of a disk, its members without the blanks around them. -/
def encryptionKey (e : Spec.DiskEncryption) : EncryptionKey :=
  ⟨nonEmpty (Text.trim e.kmsKeyName), nonEmpty (Text.trim e.kmsKeyServiceAccount)⟩

/-- A number, if it is above zero. -/
def positive (n : Int64) : Option Int64 := if 0 < n then some n else none

/-- A disk of the specification. A scratch disk has its interface and nothing else of its own. -/
def attachedDisk (zone : String) (d : Spec.Disk) : AttachedDisk :=
  let typePath (name : String) := "zones/" ++ zone ++ "/diskTypes/" ++ name
  if d.isScratch then
    { AttachedDisk.blank with
      autoDelete := d.autoDelete.getD true
      type := some d.type
      interface := some d.interface
      initializeParams := some { DiskParams.record.blank with diskType := typePath "local-ssd" }
      encryptionKey := d.encryption.map encryptionKey }
  else
    { AttachedDisk.blank with
      autoDelete := d.autoDelete.getD true
      boot := d.boot
      initializeParams := some {
        diskSizeGb := some d.sizeGb
        diskType := typePath d.type
        labels := d.labels
        sourceImage := nonEmpty d.image
        provisionedIops := positive d.provisionedIops
        provisionedThroughput := positive d.provisionedThroughput }
      encryptionKey := d.encryption.map encryptionKey }

/-- A network interface of the specification. -/
def networkInterface (project region : String) (n : Spec.NetworkInterface) : NetworkInterface :=
  { NetworkInterface.blank with
    network :=
      (nonEmpty n.network).map fun name => "projects/" ++ project ++ "/global/networks/" ++ name
    subnetwork :=
      (nonEmpty n.subnetwork).map fun name => "regions/" ++ region ++ "/subnetworks/" ++ name
    accessConfigs := if n.disableExternalIp then [] else [.blank] }

/-- A count as 32 bits, the largest when it does not fit. -/
def clampCount (n : Int64) : Int32 :=
  if Int32.minValue.toInt ≤ n.toInt && n.toInt ≤ Int32.maxValue.toInt then Int32.ofInt n.toInt
  else Int32.maxValue

/-- The accelerators of the specification. -/
def accelerator (project zone : String) (g : Spec.Gpu) : Accelerator where
  acceleratorCount := clampCount g.count
  acceleratorType :=
    "projects/" ++ project ++ "/zones/" ++ zone ++ "/acceleratorTypes/" ++ g.acceleratorType

/-- **The body of the call that makes a machine.** -/
def instanceBody (name project : String) (spec : ProviderSpec) (userData : String) : Instance :=
  { Instance.blank with
    name
    description := spec.description
    machineType := "zones/" ++ spec.zone ++ "/machineTypes/" ++ spec.machineType
    canIpForward := spec.canIpForward
    deletionProtection := spec.deletionProtection
    minCpuPlatform := nonEmpty spec.minCpuPlatform
    labels := spec.labels
    tags := some ⟨spec.tags, none⟩
    disks := spec.disks.map (attachedDisk spec.zone)
    guestAccelerators := spec.gpu.toList.map (accelerator project spec.zone)
    metadata := some
      ⟨bootstrapItem userData :: spec.metadata.map fun m => ⟨m.key, m.value⟩, none⟩
    networkInterfaces := spec.networkInterfaces.map (networkInterface project spec.region)
    scheduling := some {
      automaticRestart := some spec.scheduling.automaticRestart
      onHostMaintenance := some spec.scheduling.onHostMaintenance
      preemptible := spec.scheduling.preemptible }
    serviceAccounts := spec.serviceAccounts.map fun a => ⟨a.email, a.scopes⟩ }

end GceMachines.Lifecycle
