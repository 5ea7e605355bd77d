import GceMachines.Spec.Basic
import GceMachines.Spec.Email
import GceMachines.Machine.Secret

/-!
# Admission

Before anything is asked of the service, a specification and its secret are checked. Each rule
that is broken gives one violation, which names the place in the specification; the violations
come in the order of the rules.

* `FieldPath`: a place in a specification.
* `Violation`: a broken rule, with `message`.
* `Admission.violations`: all broken rules; none of them means that the call may go on.
* `Admission.decodeSpec`, `Admission.accept`: the specification of a text, and the gate.
-/

namespace GceMachines

/-- One step towards a place in a specification. -/
inductive PathStep
  | child (name : String)
  | index (n : Nat)
  deriving DecidableEq, Repr

/-- **A place in a specification**: where it starts, and the steps from there. -/
structure FieldPath where
  root : String
  steps : List PathStep
  deriving DecidableEq, Repr

namespace FieldPath

/-- The place of a member. -/
def child (p : FieldPath) (name : String) : FieldPath := ⟨p.root, p.steps ++ [.child name]⟩

/-- The place of an item. -/
def index (p : FieldPath) (n : Nat) : FieldPath := ⟨p.root, p.steps ++ [.index n]⟩

/-- The text of one step. -/
def stepText : PathStep → String
  | .child name => "." ++ name
  | .index n => "[" ++ toString n ++ "]"

/-- The text of a place. -/
def text (p : FieldPath) : String := p.root ++ String.join (p.steps.map stepText)

end FieldPath

/-- What is wrong with a field. -/
inductive FieldFault
  | required (detail : String)
  /-- The value as it is shown: texts quoted, numbers as they are. -/
  | invalid (value detail : String)
  | notSupported (value : String) (supported : List String)
  | forbidden (detail : String)
  deriving DecidableEq, Repr

/-- The wording of what is wrong with a field. -/
def FieldFault.message : FieldFault → String
  | .required detail => "Required value: " ++ detail
  | .invalid value detail => "Invalid value: " ++ value ++ ": " ++ detail
  | .notSupported value supported =>
    "Unsupported value: " ++ Text.quoted value ++ ": supported values: " ++
      ", ".intercalate (supported.map Text.quoted)
  | .forbidden detail => "Forbidden: " ++ detail

/-- **A broken rule.** -/
inductive Violation
  | field (path : FieldPath) (fault : FieldFault)
  | secret (text : String)
  deriving DecidableEq, Repr

/-- The wording of a broken rule. -/
def Violation.message : Violation → String
  | .field path fault => path.text ++ ": " ++ fault.message
  | .secret text => text

namespace Admission

open Spec

/-- The least size of a disk. -/
def minDiskSizeGb : Int64 := 20

/-- The metadata key that belongs to the data a machine starts with. -/
def forbiddenMetadataKey : String := "user-data"

/-- The types a disk may have. -/
def diskTypes : List String := ["pd-standard", "pd-ssd", scratchType, "pd-balanced"]

/-- The interfaces a scratch disk may have. -/
def diskInterfaces : List String := ["NVME", "SCSI"]

/-- The maintenance behaviour that keeps a machine running. -/
def migrate : String := "MIGRATE"

/-- The maintenance behaviour that stops a machine. -/
def terminate : String := "TERMINATE"

/-- The known maintenance behaviours. -/
def maintenanceModes : List String := [migrate, terminate]

/-- A violation, if the rule is broken. -/
def rule (broken : Bool) (path : FieldPath) (fault : FieldFault) : List Violation :=
  if broken then [.field path fault] else []

/-- The violations of the items of a list, each checked at its place. -/
def eachItem {α : Type} (check : FieldPath → α → List Violation) (path : FieldPath) (as : List α) :
    List Violation :=
  as.zipIdx.flatMap fun (a, n) => check (path.index n) a

/-- The rules for one disk. -/
def diskViolations (p : FieldPath) (d : Disk) : List Violation :=
  rule (d.sizeGb < minDiskSizeGb) (p.child "sizeGb")
    (.invalid (toString d.sizeGb.toInt) "disk size must be at least 20 GB") ++
  rule (d.type ∉ diskTypes) (p.child "type") (.notSupported d.type diskTypes) ++
  rule (d.isScratch && d.interface ∉ diskInterfaces) (p.child "interface")
    (.notSupported d.interface diskInterfaces) ++
  rule (d.boot && d.image.isEmpty) (p.child "image") (.required "image is required for boot disk")

/-- The rules for one network interface. -/
def interfaceViolations (p : FieldPath) (n : NetworkInterface) : List Violation :=
  rule (n.network.isEmpty && n.subnetwork.isEmpty) p
    (.required "either network or subnetwork or both is required")

/-- The rules for one metadata entry. -/
def metadataViolations (p : FieldPath) (m : MetadataItem) : List Violation :=
  rule (m.key == forbiddenMetadataKey) (p.child "key")
    (.forbidden "user-data key is forbidden in metadata")

/-- The rules for one service account. -/
def accountViolations (p : FieldPath) (a : ServiceAccount) : List Violation :=
  rule (!Email.isAddress a.email) (p.child "email")
    (.invalid (Text.quoted a.email) "email address is of invalid format")

/-- The rules for accelerators. -/
def gpuViolations (p : FieldPath) : Option Gpu → List Violation
  | none => []
  | some g =>
    rule g.acceleratorType.isEmpty (p.child "acceleratorType")
      (.required "accelerator type needs to be provided") ++
    rule (g.count ≤ 0) (p.child "count") (.forbidden "gpu count must be > 0")

/-- The rules for scheduling. A machine with accelerators cannot be moved while it runs. -/
def schedulingViolations (p : FieldPath) (withGpu : Bool) (s : Scheduling) : List Violation :=
  rule (s.onHostMaintenance ∉ maintenanceModes) (p.child "onHostMaintenance")
    (.notSupported s.onHostMaintenance maintenanceModes) ++
  rule (withGpu && s.onHostMaintenance != terminate) (p.child "onHostMaintenance")
    (.forbidden
      "liveMigration is not allowed for VMs with gpu attached, use \"TERMINATE\" instead")

/-- Where paths start. -/
def root : FieldPath := ⟨"spec", []⟩

/-- **The rules that a specification breaks.** -/
def specViolations (s : ProviderSpec) : List Violation :=
  rule s.disks.isEmpty (root.child "disks") (.required "at least one disk is required") ++
  eachItem diskViolations (root.child "disks") s.disks ++
  rule s.machineType.isEmpty (root.child "machineType") (.required "machineType is required") ++
  rule s.region.isEmpty (root.child "region") (.required "region is required") ++
  rule s.zone.isEmpty (root.child "zone") (.required "zone is required") ++
  rule s.networkInterfaces.isEmpty (root.child "networkInterfaces")
    (.required "at least one network interface is required") ++
  eachItem interfaceViolations (root.child "networkInterfaces") s.networkInterfaces ++
  eachItem metadataViolations (root.child "metadata") s.metadata ++
  rule s.serviceAccounts.isEmpty (root.child "serviceAccounts")
    (.required "at least one service account is required") ++
  eachItem accountViolations (root.child "serviceAccounts") s.serviceAccounts ++
  gpuViolations (root.child "gpu") s.gpu ++
  schedulingViolations (root.child "scheduling") s.gpu.isSome s.scheduling

/-- **The rules that a secret breaks**; a missing secret breaks one. -/
def secretViolations : Option Secret → List Violation
  | none => [.secret "secret object that has been passed by the orchestrator is nil"]
  | some s =>
    (if CredentialKey.order.any fun k => s.contains k.text then []
      else [.secret ("secret " ++ CredentialKey.listing ++ " is required field")]) ++
    (if s.contains Secret.userDataKey then []
      else [.secret ("secret " ++ Secret.userDataKey ++ " is required field")])

/-- **All broken rules**, those of the specification first. -/
def violations (spec : ProviderSpec) (secret : Option Secret) : List Violation :=
  specViolations spec ++ secretViolations secret

/-- The gate: a specification and a secret that break no rule pass. -/
def check (spec : ProviderSpec) (secret : Option Secret) : Except MachineError Unit :=
  match violations spec secret with
  | [] => .ok ()
  | vs => .error (.invalidSpec (vs.map Violation.message))

/-- The specification that a text holds. -/
def decodeSpec (text : List UInt8) : Except MachineError ProviderSpec :=
  match ProviderSpec.format.decode text with
  | .ok s => .ok s
  | .error f => .error (.invalidSpec ["decode provider spec: " ++ f.message])

/-- The specification that a text holds, if it and the secret pass the gate. -/
def accept (text : List UInt8) (secret : Secret) : Except MachineError ProviderSpec :=
  (decodeSpec text).bind fun s => (check s (some secret)).map fun _ => s

end Admission

end GceMachines
