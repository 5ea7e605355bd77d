import GceMachines.Json.Value

/-!
# Disks behind volumes

The orchestrator shows its persistent volumes, and asks which disks of this provider stand behind
them. A volume either names a disk directly, or names the driver it belongs to and a handle.

* `VolumeSource.ofJson`: where a volume comes from.
* `diskIds`: the disks behind volumes, in their order; volumes of other providers are left out.
-/

namespace GceMachines

/-- Where a volume comes from. -/
structure VolumeSource where
  /-- The name of a disk. -/
  disk : Option String
  /-- The driver of the volume and the handle it knows the volume by. -/
  driverHandle : Option (String × String)
  deriving DecidableEq, Repr

namespace VolumeSource

/-- The driver whose handles name disks of this provider. -/
def diskDriver : String := "pd.csi.storage.gke.io"

/-- A text member of a JSON object, empty when it is missing. -/
def textMember (name : String) (j : Json) : String := ((j.member? name).bind Json.string?).getD ""

/-- A member of a JSON object that is an object itself. -/
def objectMember? (name : String) (j : Json) : Option Json :=
  match j.member? name with
  | some (.object ms) => some (.object ms)
  | _ => none

/-- Where a volume comes from, as its JSON description says. -/
def ofJson (volume : Json) : VolumeSource where
  disk := (objectMember? "gcePersistentDisk" volume).map (textMember "pdName")
  driverHandle :=
    (objectMember? "csi" volume).map fun c => (textMember "driver" c, textMember "volumeHandle" c)

/-- The disk of this provider behind a volume. -/
def diskId? (v : VolumeSource) : Option String :=
  match v.disk with
  | some name => some name
  | none => v.driverHandle.bind fun (driver, handle) =>
    if driver = diskDriver then some handle else none

end VolumeSource

/-- **The disks behind volumes.** -/
def diskIds (volumes : List VolumeSource) : List String := volumes.filterMap VolumeSource.diskId?

end GceMachines
