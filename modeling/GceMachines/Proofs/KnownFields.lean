import GceMachines.Driver
import GceMachines.Proofs.Json.Lenient

/-!
# Texts from those who know more

The service and the orchestrator may come to know more members of a record than are known here, and
may write those that are known in any order. Specifications, instances, operations and pages of
instances are decoded to the same values all the same. For each record one goes through its fields
and finds that they fill different places, that what they read is well written, and which of them
hold records themselves.

* `ProviderSpec.shape`, `Instance.shape`, …: where records stand, one for each record with others
  inside.
* `ProviderSpec.lenient`, `Instance.lenient`, …: one lemma for each record.
* `known_fields_only`: decoding depends on the known members only.
-/

namespace GceMachines

open Json Json.Format
open Utf8 (encode)

/-! ### Specifications -/

namespace Spec

theorem DiskEncryption.lenient : record.format.Lenient (record.shape []) :=
  Record.lenient (by simp [record]) (by simp [record]) (by decide) .nil

/-- A disk holds its encryption. -/
def Disk.shape : Shape := record.shape [("encryption", DiskEncryption.record.shape [])]

theorem Disk.lenient : record.format.Lenient shape :=
  Record.lenient (by simp [record, DiskEncryption.lenient.strict]) (by simp [record])
    (by decide) <|
    .cons rfl (overlooks_option DiskEncryption.lenient.overlooks) .nil

theorem Gpu.lenient : record.format.Lenient (record.shape []) :=
  Record.lenient (by simp [record]) (by simp [record]) (by decide) .nil

theorem MetadataItem.lenient : record.format.Lenient (record.shape []) :=
  Record.lenient (by simp [record]) (by simp [record]) (by decide) .nil

theorem NetworkInterface.lenient : record.format.Lenient (record.shape []) :=
  Record.lenient (by simp [record]) (by simp [record]) (by decide) .nil

theorem Scheduling.lenient : record.format.Lenient (record.shape []) :=
  Record.lenient (by simp [record]) (by simp [record]) (by decide) .nil

theorem ServiceAccount.lenient : record.format.Lenient (record.shape []) :=
  Record.lenient (by simp [record]) (by simp [record]) (by decide) .nil

end Spec

/-- A specification holds disks, accelerators, metadata entries, network interfaces, scheduling and
service accounts. -/
def ProviderSpec.shape : Shape := record.shape [
  ("disks", .list Spec.Disk.shape),
  ("gpu", Spec.Gpu.record.shape []),
  ("metadata", .list (Spec.MetadataItem.record.shape [])),
  ("networkInterfaces", .list (Spec.NetworkInterface.record.shape [])),
  ("scheduling", Spec.Scheduling.record.shape []),
  ("serviceAccounts", .list (Spec.ServiceAccount.record.shape []))]

theorem ProviderSpec.lenient : format.Lenient shape :=
  Record.lenient
    (by simp [record, Spec.Disk.lenient.strict, Spec.Gpu.lenient.strict,
      Spec.MetadataItem.lenient.strict, Spec.NetworkInterface.lenient.strict,
      Spec.Scheduling.lenient.strict, Spec.ServiceAccount.lenient.strict])
    (by simp [record]) (by decide) <|
    .cons rfl (overlooks_list Spec.Disk.lenient.overlooks) <|
    .cons rfl (overlooks_option Spec.Gpu.lenient.overlooks) <|
    .cons rfl (overlooks_list Spec.MetadataItem.lenient.overlooks) <|
    .cons rfl (overlooks_list Spec.NetworkInterface.lenient.overlooks) <|
    .cons rfl Spec.Scheduling.lenient.overlooks <|
    .cons rfl (overlooks_list Spec.ServiceAccount.lenient.overlooks) .nil

/-! ### Instances -/

namespace Compute

theorem Tags.lenient : record.format.Lenient (record.shape []) :=
  Record.lenient (by simp [record]) (by simp [record]) (by decide) .nil

theorem DiskParams.lenient : record.format.Lenient (record.shape []) :=
  Record.lenient (by simp [record]) (by simp [record]) (by decide) .nil

theorem EncryptionKey.lenient : record.format.Lenient (record.shape []) :=
  Record.lenient (by simp [record]) (by simp [record]) (by decide) .nil

/-- A disk holds its parameters and its encryption key. -/
def AttachedDisk.shape : Shape := record.shape [
  ("initializeParams", DiskParams.record.shape []),
  ("diskEncryptionKey", EncryptionKey.record.shape [])]

theorem AttachedDisk.lenient : record.format.Lenient shape :=
  Record.lenient (by simp [record, DiskParams.lenient.strict, EncryptionKey.lenient.strict])
    (by simp [record]) (by decide) <|
    .cons rfl (overlooks_option DiskParams.lenient.overlooks) <|
    .cons rfl (overlooks_option EncryptionKey.lenient.overlooks) .nil

theorem Accelerator.lenient : record.format.Lenient (record.shape []) :=
  Record.lenient (by simp [record]) (by simp [record]) (by decide) .nil

theorem MetadataItem.lenient : record.format.Lenient (record.shape []) :=
  Record.lenient (by simp [record]) (by simp [record]) (by decide) .nil

/-- Metadata holds its entries. -/
def Metadata.shape : Shape := record.shape [("items", .list (MetadataItem.record.shape []))]

theorem Metadata.lenient : record.format.Lenient shape :=
  Record.lenient (by simp [record, MetadataItem.lenient.strict]) (by simp [record])
    (by decide) <|
    .cons rfl (overlooks_list MetadataItem.lenient.overlooks) .nil

theorem AccessConfig.lenient : record.format.Lenient (record.shape []) :=
  Record.lenient (by simp [record]) (by simp [record]) (by decide) .nil

/-- A network interface holds its external addresses. -/
def NetworkInterface.shape : Shape :=
  record.shape [("accessConfigs", .list (AccessConfig.record.shape []))]

theorem NetworkInterface.lenient : record.format.Lenient shape :=
  Record.lenient (by simp [record, AccessConfig.lenient.strict]) (by simp [record])
    (by decide) <|
    .cons rfl (overlooks_list AccessConfig.lenient.overlooks) .nil

theorem Scheduling.lenient : record.format.Lenient (record.shape []) :=
  Record.lenient (by simp [record]) (by simp [record]) (by decide) .nil

theorem ServiceAccount.lenient : record.format.Lenient (record.shape []) :=
  Record.lenient (by simp [record]) (by simp [record]) (by decide) .nil

end Compute

/-- An instance holds tags, disks, accelerators, metadata, network interfaces, scheduling and
service accounts. -/
def Instance.shape : Shape := record.shape [
  ("tags", Compute.Tags.record.shape []),
  ("disks", .list Compute.AttachedDisk.shape),
  ("guestAccelerators", .list (Compute.Accelerator.record.shape [])),
  ("metadata", Compute.Metadata.shape),
  ("networkInterfaces", .list Compute.NetworkInterface.shape),
  ("scheduling", Compute.Scheduling.record.shape []),
  ("serviceAccounts", .list (Compute.ServiceAccount.record.shape []))]

theorem Instance.lenient : format.Lenient shape :=
  Record.lenient
    (by simp [record, Compute.Tags.lenient.strict, Compute.AttachedDisk.lenient.strict,
      Compute.Accelerator.lenient.strict, Compute.Metadata.lenient.strict,
      Compute.NetworkInterface.lenient.strict, Compute.Scheduling.lenient.strict,
      Compute.ServiceAccount.lenient.strict])
    (by simp [record]) (by decide) <|
    .cons rfl (overlooks_option Compute.Tags.lenient.overlooks) <|
    .cons rfl (overlooks_list Compute.AttachedDisk.lenient.overlooks) <|
    .cons rfl (overlooks_list Compute.Accelerator.lenient.overlooks) <|
    .cons rfl (overlooks_option Compute.Metadata.lenient.overlooks) <|
    .cons rfl (overlooks_list Compute.NetworkInterface.lenient.overlooks) <|
    .cons rfl (overlooks_option Compute.Scheduling.lenient.overlooks) <|
    .cons rfl (overlooks_list Compute.ServiceAccount.lenient.overlooks) .nil

/-- A page holds instances. -/
def InstanceList.shape : Shape := record.shape [("items", .list Instance.shape)]

theorem InstanceList.lenient : format.Lenient shape :=
  Record.lenient (by simp [record, Instance.lenient.strict]) (by simp [record]) (by decide) <|
    .cons rfl (overlooks_list Instance.lenient.overlooks) .nil

/-! ### Operations -/

theorem OperationFault.lenient : record.format.Lenient (record.shape []) :=
  Record.lenient (by simp [record]) (by simp [record]) (by decide) .nil

/-- A failure holds its entries. -/
def OperationError.shape : Shape :=
  record.shape [("errors", .list (OperationFault.record.shape []))]

theorem OperationError.lenient : record.format.Lenient shape :=
  Record.lenient (by simp [record, OperationFault.lenient.strict]) (by simp [record])
    (by decide) <|
    .cons rfl (overlooks_list OperationFault.lenient.overlooks) .nil

/-- An operation holds its failure. -/
def Operation.shape : Shape := record.shape [("error", OperationError.shape)]

theorem Operation.lenient : format.Lenient shape :=
  Record.lenient (by simp [record, OperationStatus.format, OperationError.lenient.strict])
    (by simp [record]) (by decide) <|
    .cons rfl (overlooks_option OperationError.lenient.overlooks) .nil

/-! ### All of them -/

/-- **Decoding depends on the known members only**: every text that is decoded as a specification,
an instance, an operation or a page of instances follows the rules of the grammar. The members of
its records may be permuted, members that the records do not know may be put in, and the white space
may be changed: that gives texts again, and all of them are decoded to the same value. -/
theorem known_fields_only :
    ProviderSpec.format.DependsOnKnown ProviderSpec.shape ∧
    Instance.format.DependsOnKnown Instance.shape ∧
    Operation.format.DependsOnKnown Operation.shape ∧
    InstanceList.format.DependsOnKnown InstanceList.shape :=
  ⟨ProviderSpec.lenient.dependsOnKnown, Instance.lenient.dependsOnKnown,
    Operation.lenient.dependsOnKnown, InstanceList.lenient.dependsOnKnown⟩

/-- The member of a document that stands for a member of a value. -/
def jsonMember (m : String × Json) : Token String × Document := (⟨.ok m.1, .ok ()⟩, .ofJson m.2)

/-- The zone, as a member of a specification. -/
def zoneMember : String × Json := ("zone", .string "us-west1-a")

/-- One boot disk, as a member of a specification, with further members of this disk. -/
def diskMember (others : List (String × Json)) : String × Json :=
  ("disks", .array [.object (others ++ [("boot", .bool true)])])

/-- The specification that these two members stand for. -/
def zonedSpec : ProviderSpec :=
  { ProviderSpec.blank with
    disks := [{ Spec.Disk.blank with boot := true }], zone := "us-west1-a" }

/-- A member that disks do not have. -/
def futureMember : String × Json := ("replicas", .array [.object []])

/-- A specification of one disk in a zone is decoded to the same value when its disk has a member
that is not known here and its own members are exchanged. -/
theorem known_fields_only_disk :
    ProviderSpec.format.decode
      (encode (compact (.object [zoneMember, diskMember []]))) = .ok zonedSpec ∧
    ProviderSpec.format.decode
      (encode (compact (.object [diskMember [futureMember], zoneMember]))) = .ok zonedSpec := by
  have hplain : Exact (object [zoneMember, diskMember []]) := by
    simp [zoneMember, diskMember, Exact, ExactItems, ExactMembers]
  have hnewer : Exact (object [diskMember [futureMember], zoneMember]) := by
    simp [zoneMember, diskMember, futureMember, Exact, ExactItems, ExactMembers]
  -- from the disk outwards
  have hdisk : Edit Spec.Disk.shape (.ofJson (.object [("boot", .bool true)]))
      (.ofJson (.object [futureMember, ("boot", .bool true)])) :=
    @Edit.insert _ [] [jsonMember ("boot", .bool true)] _ "replicas" (.ofJson futureMember.2) _ _
      (isString_quote _) rfl (by decide +kernel) (spelt_compact futureMember.2 ⟨trivial, trivial⟩)
  have hmember : Edit ProviderSpec.shape (.ofJson (.object [zoneMember, diskMember []]))
      (.ofJson (.object [zoneMember, diskMember [futureMember]])) :=
    @Edit.member _ [jsonMember zoneMember] [] ⟨.ok "disks", .ok ()⟩ "disks"
      (.list Spec.Disk.shape) _ _ rfl (.tail _ (.tail _ (.tail _ (.head _))))
      (@Edit.item _ [] [] _ _ hdisk)
  have hswap : Edit ProviderSpec.shape (.ofJson (.object [zoneMember, diskMember [futureMember]]))
      (.ofJson (.object [diskMember [futureMember], zoneMember])) :=
    .permute (.swap (jsonMember (diskMember [futureMember])) (jsonMember zoneMember) [])
  have hread : ProviderSpec.format.decode _ = .ok zonedSpec :=
    (decode_text (text_compact hplain)).trans rfl
  have hsame := known_fields_only.1.edited _ _ _ _ (text_compact hplain) (text_compact hnewer)
    (.tail (.single hmember) hswap)
  exact ⟨hread, (hsame zonedSpec).mp hread⟩

end GceMachines
