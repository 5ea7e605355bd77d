import GceMachines.Driver
import GceMachines.Proofs.Json.Record

/-!
# Texts of specifications, instances and answers

What is written as a text is read back from it: specifications, what the service is sent and
answers, and what the orchestrator is told, with all their parts. For each record one goes through
its fields and finds that those that are written lead from the blank record to the one that was
written, and that a field that is left out is blank already.

The 64-bit numbers of disk parameters travel as strings, and may come back as numbers.

* `Disk.faithful`, `Instance.faithful`, …: one lemma for each record.
* `DiskParams.spelt`: disk parameters with their numbers in either spelling.
* `formats_round_trip`: the text of every value is decoded to this value.
-/

namespace GceMachines

open Json Json.Format

variable {depth : Nat}

/-! ### Specifications -/

namespace Spec

theorem DiskEncryption.faithful : DiskEncryption.record.format.Faithful (depth + 1) :=
  Record.faithful (by decide) fun v =>
    .always faithful_string <|
    .always faithful_string <| .nil v

theorem Disk.faithful : Disk.record.format.Faithful (depth + 2) :=
  Record.faithful (by decide) fun v =>
    .always (faithful_option faithful_bool nofun) <|
    .always faithful_bool <|
    .always faithful_int64 <|
    .always faithful_string <|
    .always faithful_string <|
    .always faithful_string <|
    .ifAny DiskEncryption.faithful (Record.neverNull _) rfl <|
    .always (faithful_map faithful_string) <|
    .always faithful_int64 <|
    .always faithful_int64 <| .nil v

theorem Gpu.faithful : Gpu.record.format.Faithful (depth + 1) :=
  Record.faithful (by decide) fun v =>
    .always faithful_string <|
    .always faithful_int64 <| .nil v

theorem MetadataItem.faithful : MetadataItem.record.format.Faithful (depth + 1) :=
  Record.faithful (by decide) fun v =>
    .always faithful_string <|
    .always (faithful_option faithful_string nofun) <| .nil v

theorem NetworkInterface.faithful : NetworkInterface.record.format.Faithful (depth + 1) :=
  Record.faithful (by decide) fun v =>
    .always faithful_bool <|
    .ifText rfl <|
    .ifText rfl <| .nil v

theorem Scheduling.faithful : Scheduling.record.format.Faithful (depth + 1) :=
  Record.faithful (by decide) fun v =>
    .always faithful_bool <|
    .always faithful_string <|
    .always faithful_bool <| .nil v

theorem ServiceAccount.faithful : ServiceAccount.record.format.Faithful (depth + 2) :=
  Record.faithful (by decide) fun v =>
    .always faithful_string <|
    .always (faithful_list faithful_string) <| .nil v

end Spec

theorem ProviderSpec.faithful : ProviderSpec.format.Faithful (depth + 4) :=
  Record.faithful (by decide) fun v =>
    .always faithful_bool <|
    .always faithful_bool <|
    .ifAny faithful_string nofun rfl <|
    .always (faithful_list Spec.Disk.faithful) <|
    .ifAny Spec.Gpu.faithful (Record.neverNull _) rfl <|
    .ifEntries faithful_string rfl <|
    .always faithful_string <|
    .always (faithful_list Spec.MetadataItem.faithful) <|
    .ifText rfl <|
    .always (faithful_list Spec.NetworkInterface.faithful) <|
    .always faithful_string <|
    .always Spec.Scheduling.faithful <|
    .always (faithful_list Spec.ServiceAccount.faithful) <|
    .always (faithful_list faithful_string) <|
    .always faithful_string <| .nil v

/-! ### Instances -/

namespace Compute

theorem Tags.faithful : Tags.record.format.Faithful (depth + 2) :=
  Record.faithful (by decide) fun v =>
    .ifItems faithful_string rfl <|
    .ifAny faithful_string nofun rfl <| .nil v

theorem DiskParams.faithful : DiskParams.record.format.Faithful (depth + 2) :=
  Record.faithful (by decide) fun v =>
    .ifAny faithful_decimal64 nofun rfl <|
    .ifText rfl <|
    .ifEntries faithful_string rfl <|
    .ifAny faithful_string nofun rfl <|
    .ifAny faithful_decimal64 nofun rfl <|
    .ifAny faithful_decimal64 nofun rfl <| .nil v

theorem EncryptionKey.faithful : EncryptionKey.record.format.Faithful (depth + 1) :=
  Record.faithful (by decide) fun v =>
    .ifAny faithful_string nofun rfl <|
    .ifAny faithful_string nofun rfl <| .nil v

theorem AttachedDisk.faithful : AttachedDisk.record.format.Faithful (depth + 3) :=
  Record.faithful (by decide) fun v =>
    .always faithful_bool <|
    .always faithful_bool <|
    .ifAny faithful_string nofun rfl <|
    .ifAny faithful_string nofun rfl <|
    .ifAny faithful_string nofun rfl <|
    .ifAny faithful_string nofun rfl <|
    .ifAny DiskParams.faithful (Record.neverNull _) rfl <|
    .ifAny EncryptionKey.faithful (Record.neverNull _) rfl <| .nil v

theorem Accelerator.faithful : Accelerator.record.format.Faithful (depth + 1) :=
  Record.faithful (by decide) fun v =>
    .always faithful_int32 <|
    .always faithful_string <| .nil v

theorem MetadataItem.faithful : MetadataItem.record.format.Faithful (depth + 1) :=
  Record.faithful (by decide) fun v =>
    .needed faithful_string <|
    .ifAny faithful_string nofun rfl <| .nil v

theorem Metadata.faithful : Metadata.record.format.Faithful (depth + 3) :=
  Record.faithful (by decide) fun v =>
    .ifItems MetadataItem.faithful rfl <|
    .ifAny faithful_string nofun rfl <| .nil v

theorem AccessConfig.faithful : AccessConfig.record.format.Faithful (depth + 1) :=
  Record.faithful (by decide) fun v =>
    .ifAny faithful_string nofun rfl <|
    .ifAny faithful_string nofun rfl <|
    .ifAny faithful_string nofun rfl <| .nil v

theorem NetworkInterface.faithful : NetworkInterface.record.format.Faithful (depth + 3) :=
  Record.faithful (by decide) fun v =>
    .ifAny faithful_string nofun rfl <|
    .ifAny faithful_string nofun rfl <|
    .ifAny faithful_string nofun rfl <|
    .ifAny faithful_string nofun rfl <|
    .ifItems AccessConfig.faithful rfl <| .nil v

theorem Scheduling.faithful : Scheduling.record.format.Faithful (depth + 1) :=
  Record.faithful (by decide) fun v =>
    .ifAny faithful_bool nofun rfl <|
    .ifAny faithful_string nofun rfl <|
    .always faithful_bool <| .nil v

theorem ServiceAccount.faithful : ServiceAccount.record.format.Faithful (depth + 2) :=
  Record.faithful (by decide) fun v =>
    .always faithful_string <|
    .always (faithful_list faithful_string) <| .nil v

end Compute

theorem Instance.faithful : Instance.format.Faithful (depth + 5) :=
  Record.faithful (by decide) fun v =>
    .ifAny faithful_string nofun rfl <|
    .always faithful_string <|
    .ifAny faithful_string nofun rfl <|
    .ifText rfl <|
    .ifAny faithful_string nofun rfl <|
    .ifAny faithful_string nofun rfl <|
    .always faithful_bool <|
    .always faithful_bool <|
    .ifAny faithful_string nofun rfl <|
    .ifEntries faithful_string rfl <|
    .ifAny Compute.Tags.faithful (Record.neverNull _) rfl <|
    .ifItems Compute.AttachedDisk.faithful rfl <|
    .ifItems Compute.Accelerator.faithful rfl <|
    .ifAny Compute.Metadata.faithful (Record.neverNull _) rfl <|
    .ifItems Compute.NetworkInterface.faithful rfl <|
    .ifAny Compute.Scheduling.faithful (Record.neverNull _) rfl <|
    .ifItems Compute.ServiceAccount.faithful rfl <|
    .ifAny faithful_string nofun rfl <|
    .ifAny faithful_string nofun rfl <| .nil v

theorem InstanceList.faithful : InstanceList.format.Faithful (depth + 7) :=
  Record.faithful (by decide) fun v =>
    .always (faithful_list Instance.faithful) <|
    .ifAny faithful_string nofun rfl <| .nil v

/-! ### Numbers that travel as strings -/

namespace Compute

/-- How a 64-bit number is spelt in a text. -/
inductive Spelling
  | number
  | string
  deriving DecidableEq, Repr

/-- A 64-bit number as a JSON value. -/
def Spelling.json : Spelling → Int64 → Json
  | .number, n => .int n.toInt
  | .string, n => .string (toString n.toInt)

theorem Spelling.readsBack (s : Spelling) : decimal64.ReadsBack depth s.json := by
  cases s with
  | number => exact readsBack_decimal64_int
  | string => exact faithful_decimal64

theorem Spelling.neverNull (s : Spelling) : NeverNull s.json := by
  cases s <;> exact fun _ => nofun

/-- **Disk parameters with each of their numbers in a spelling of its own.** -/
def DiskParams.spelt (size iops throughput : Spelling) (p : DiskParams) : Json :=
  .object <| List.filterMap (fun m => m.2.map fun j => (m.1, j)) [
    ("diskSizeGb", p.diskSizeGb.map size.json),
    ("diskType", if p.diskType.isEmpty then none else some (.string p.diskType)),
    ("labels", if p.labels.isEmpty then none else some ((Format.map .string).write p.labels)),
    ("sourceImage", p.sourceImage.map .string),
    ("provisionedIops", p.provisionedIops.map iops.json),
    ("provisionedThroughput", p.provisionedThroughput.map throughput.json)]

/-- The members of disk parameters, with each of the numbers in a spelling of its own. -/
def DiskParams.speltMembers (size iops throughput : Spelling) (p : DiskParams) :
    List (Json.Field DiskParams × Option Json) :=
  record.fields.zip [
    p.diskSizeGb.map size.json,
    if p.diskType.isEmpty then none else some (.string p.diskType),
    if p.labels.isEmpty then none else some ((Format.map .string).write p.labels),
    p.sourceImage.map .string,
    p.provisionedIops.map iops.json,
    p.provisionedThroughput.map throughput.json]

/-- Disk parameters are read back whichever way their numbers are spelt. -/
theorem DiskParams.readsBack_spelt (size iops throughput : Spelling) :
    record.format.ReadsBack (depth + 2) (spelt size iops throughput) :=
  Record.readsBack (speltMembers size iops throughput) (fun _ => rfl) (by decide) fun v =>
    .cons (Json.Field.takes_ifAny size.readsBack size.neverNull rfl _) <|
    .ifText (v := v) rfl <|
    .ifEntries (v := v) faithful_string rfl <|
    .cons (Json.Field.takes_ifAny faithful_string nofun rfl _) <|
    .cons (Json.Field.takes_ifAny iops.readsBack iops.neverNull rfl _) <|
    .cons (Json.Field.takes_ifAny throughput.readsBack throughput.neverNull rfl _) <| .nil v

theorem DiskParams.write_eq_spelt (p : DiskParams) :
    record.format.write p = p.spelt .string .string .string := by
  show record.write p = _
  rw [Record.write_eq]
  simp only [Record.members, record, List.map_cons, List.map_nil, Json.Field.write_ifAny]
  rfl

end Compute

/-! ### Operations -/

theorem OperationStatus.faithful : OperationStatus.format.Faithful depth :=
  faithful_unitEnum fun s => congrArg Except.ok s.ofName_name

theorem OperationFault.faithful : OperationFault.record.format.Faithful (depth + 1) :=
  Record.faithful (by decide) fun v =>
    .always faithful_string <|
    .ifAny faithful_string nofun rfl <|
    .always faithful_string <| .nil v

theorem OperationError.faithful : OperationError.record.format.Faithful (depth + 3) :=
  Record.faithful (by decide) fun v =>
    .always (faithful_list OperationFault.faithful) <| .nil v

theorem Operation.faithful : Operation.format.Faithful (depth + 4) :=
  Record.faithful (by decide) fun v =>
    .needed faithful_string <|
    .always OperationStatus.faithful <|
    .ifAny OperationError.faithful (Record.neverNull _) rfl <|
    .ifAny faithful_string nofun rfl <|
    .ifAny faithful_string nofun rfl <|
    .ifAny faithful_string nofun rfl <|
    .ifAny faithful_int32 nofun rfl <|
    .ifAny faithful_int32 nofun rfl <| .nil v

/-! ### What the orchestrator is told -/

theorem MachineResponse.faithful : MachineResponse.record.format.Faithful (depth + 1) :=
  Record.faithful (by decide) fun v =>
    .needed faithful_string <|
    .needed faithful_string <| .nil v

theorem MachineListing.faithful : MachineListing.record.format.Faithful (depth + 2) :=
  Record.faithful (by decide) fun v =>
    .needed (faithful_map faithful_string) <| .nil v

theorem ErrorCode.faithful : ErrorCode.format.Faithful depth :=
  faithful_unitEnum fun c => by cases c <;> rfl

theorem DriverError.faithful : DriverError.record.format.Faithful (depth + 1) :=
  Record.faithful (by decide) fun v =>
    .needed ErrorCode.faithful <|
    .needed faithful_string <| .nil v

/-! ### All formats -/

/-- There is room for seven levels of nesting in a text. -/
theorem roundTrips_of_faithful {α : Type} {f : Format α} (h : f.Faithful 7) : f.RoundTrips :=
  h.roundTrips (by decide)

/-- Specifications and their parts are read back. -/
structure SpecsRoundTrip : Prop where
  spec : ProviderSpec.format.RoundTrips
  disk : Spec.Disk.record.format.RoundTrips
  diskEncryption : Spec.DiskEncryption.record.format.RoundTrips
  gpu : Spec.Gpu.record.format.RoundTrips
  metadataItem : Spec.MetadataItem.record.format.RoundTrips
  networkInterface : Spec.NetworkInterface.record.format.RoundTrips
  scheduling : Spec.Scheduling.record.format.RoundTrips
  serviceAccount : Spec.ServiceAccount.record.format.RoundTrips

theorem specs_roundTrip : SpecsRoundTrip where
  spec := roundTrips_of_faithful ProviderSpec.faithful
  disk := roundTrips_of_faithful Spec.Disk.faithful
  diskEncryption := roundTrips_of_faithful Spec.DiskEncryption.faithful
  gpu := roundTrips_of_faithful Spec.Gpu.faithful
  metadataItem := roundTrips_of_faithful Spec.MetadataItem.faithful
  networkInterface := roundTrips_of_faithful Spec.NetworkInterface.faithful
  scheduling := roundTrips_of_faithful Spec.Scheduling.faithful
  serviceAccount := roundTrips_of_faithful Spec.ServiceAccount.faithful

/-- Instances, their parts and pages of them are read back. -/
structure InstancesRoundTrip : Prop where
  page : InstanceList.format.RoundTrips
  item : Instance.format.RoundTrips
  tags : Compute.Tags.record.format.RoundTrips
  disk : Compute.AttachedDisk.record.format.RoundTrips
  diskParams : Compute.DiskParams.record.format.RoundTrips
  encryptionKey : Compute.EncryptionKey.record.format.RoundTrips
  accelerator : Compute.Accelerator.record.format.RoundTrips
  metadata : Compute.Metadata.record.format.RoundTrips
  metadataItem : Compute.MetadataItem.record.format.RoundTrips
  networkInterface : Compute.NetworkInterface.record.format.RoundTrips
  accessConfig : Compute.AccessConfig.record.format.RoundTrips
  scheduling : Compute.Scheduling.record.format.RoundTrips
  serviceAccount : Compute.ServiceAccount.record.format.RoundTrips

theorem instances_roundTrip : InstancesRoundTrip where
  page := roundTrips_of_faithful InstanceList.faithful
  item := roundTrips_of_faithful Instance.faithful
  tags := roundTrips_of_faithful Compute.Tags.faithful
  disk := roundTrips_of_faithful Compute.AttachedDisk.faithful
  diskParams := roundTrips_of_faithful Compute.DiskParams.faithful
  encryptionKey := roundTrips_of_faithful Compute.EncryptionKey.faithful
  accelerator := roundTrips_of_faithful Compute.Accelerator.faithful
  metadata := roundTrips_of_faithful Compute.Metadata.faithful
  metadataItem := roundTrips_of_faithful Compute.MetadataItem.faithful
  networkInterface := roundTrips_of_faithful Compute.NetworkInterface.faithful
  accessConfig := roundTrips_of_faithful Compute.AccessConfig.faithful
  scheduling := roundTrips_of_faithful Compute.Scheduling.faithful
  serviceAccount := roundTrips_of_faithful Compute.ServiceAccount.faithful

/-- Operations and their parts are read back. -/
structure OperationsRoundTrip : Prop where
  operation : Operation.format.RoundTrips
  status : OperationStatus.format.RoundTrips
  error : OperationError.record.format.RoundTrips
  fault : OperationFault.record.format.RoundTrips

theorem operations_roundTrip : OperationsRoundTrip where
  operation := roundTrips_of_faithful Operation.faithful
  status := roundTrips_of_faithful OperationStatus.faithful
  error := roundTrips_of_faithful OperationError.faithful
  fault := roundTrips_of_faithful OperationFault.faithful

/-- What the orchestrator is told is read back. -/
structure AnswersRoundTrip : Prop where
  machine : MachineResponse.record.format.RoundTrips
  listing : MachineListing.record.format.RoundTrips
  error : DriverError.record.format.RoundTrips
  code : ErrorCode.format.RoundTrips

theorem answers_roundTrip : AnswersRoundTrip where
  machine := roundTrips_of_faithful MachineResponse.faithful
  listing := roundTrips_of_faithful MachineListing.faithful
  error := roundTrips_of_faithful DriverError.faithful
  code := roundTrips_of_faithful ErrorCode.faithful

/-- Numbers that travel as strings are read from numbers and from strings, wherever they stand in a
document, as texts of their own and as the members of disk parameters, and are written as strings.
-/
structure DecimalsRoundTrip : Prop where
  read : ∀ (s : Compute.Spelling) (n : Int64) (room : Nat), 0 < room →
    decimal64.read room (.ofJson (s.json n)) = .ok n
  decode : ∀ (s : Compute.Spelling) (n : Int64),
    decimal64.decode (Utf8.encode (s.json n).compact) = .ok n
  encode : ∀ n : Int64, decimal64.encode n = (Json.string (toString n.toInt)).compact
  decode_params : ∀ (p : Compute.DiskParams) (size iops throughput : Compute.Spelling),
    Compute.DiskParams.record.format.decode
      (Utf8.encode (p.spelt size iops throughput).compact) = .ok p
  encode_params : ∀ p : Compute.DiskParams,
    Compute.DiskParams.record.format.encode p = (p.spelt .string .string .string).compact

theorem decimals_roundTrip : DecimalsRoundTrip where
  read s := s.readsBack.read_ofJson
  decode s n := ReadsBack.decode (s.readsBack : decimal64.ReadsBack 0 s.json) (by decide) n
  encode _ := rfl
  decode_params p size iops throughput :=
    have hback : Compute.DiskParams.record.format.ReadsBack 2 _ :=
      Compute.DiskParams.readsBack_spelt size iops throughput
    hback.decode (by decide) p
  encode_params p := congrArg Json.compact p.write_eq_spelt

/-- **The formats round-trip**: the text of every specification, of everything that the service is
sent or answers and of everything that the orchestrator is told is decoded to what was written. -/
theorem formats_round_trip : SpecsRoundTrip ∧ InstancesRoundTrip ∧ OperationsRoundTrip ∧
    AnswersRoundTrip ∧ DecimalsRoundTrip :=
  ⟨specs_roundTrip, instances_roundTrip, operations_roundTrip, answers_roundTrip,
    decimals_roundTrip⟩

end GceMachines
