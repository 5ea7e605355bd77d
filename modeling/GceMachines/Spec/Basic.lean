import GceMachines.Json.Record

/-!
# Provider specifications

What the orchestrator says about a class of machines, as JSON: the machine type, the disks, the
network, the accounts and the tags that mark who owns the machines. Every member may be missing
and has a default.

* `ProviderSpec`: the specification, with `ProviderSpec.format`.
* `Spec.Disk`, `Spec.Gpu`, …: its parts, each with its record.
-/

namespace GceMachines

open Json

namespace Spec

/-- The disk type of local scratch disks. -/
def scratchType : String := "SCRATCH"

/-- A key that encrypts a disk, and the account that may use it. -/
structure DiskEncryption where
  kmsKeyName : String
  kmsKeyServiceAccount : String
  deriving DecidableEq

/-- Disk encryption as JSON. -/
def DiskEncryption.record : Record DiskEncryption where
  title := "struct DiskEncryption"
  blank := ⟨"", ""⟩
  fields := [
    .always "kmsKeyName" .string kmsKeyName fun r v => { r with kmsKeyName := v },
    .always "kmsKeyServiceAccount" .string kmsKeyServiceAccount fun r v =>
      { r with kmsKeyServiceAccount := v }]

/-- A disk. One that does not say so is deleted together with its machine. -/
structure Disk where
  autoDelete : Option Bool
  boot : Bool
  sizeGb : Int64
  type : String
  /-- Counts for scratch disks only. -/
  interface : String
  image : String
  encryption : Option DiskEncryption
  labels : SortedMap String String
  provisionedIops : Int64
  provisionedThroughput : Int64
  deriving DecidableEq

namespace Disk

/-- A disk about which nothing is said. -/
def blank : Disk := ⟨none, false, 0, "", "", "", none, .empty, 0, 0⟩

/-- Whether a disk is a local scratch disk. -/
def isScratch (d : Disk) : Bool := d.type == scratchType

/-- Disks as JSON. -/
def record : Record Disk where
  title := "struct Disk"
  blank := blank
  fields := [
    .always "autoDelete" (.option .bool) autoDelete fun r v => { r with autoDelete := v },
    .always "boot" .bool boot fun r v => { r with boot := v },
    .always "sizeGb" .int64 sizeGb fun r v => { r with sizeGb := v },
    .always "type" .string type fun r v => { r with type := v },
    .always "interface" .string interface fun r v => { r with interface := v },
    .always "image" .string image fun r v => { r with image := v },
    .ifAny "encryption" DiskEncryption.record.format encryption fun r v =>
      { r with encryption := v },
    .always "labels" (.map .string) labels fun r v => { r with labels := v },
    .always "provisionedIops" .int64 provisionedIops fun r v => { r with provisionedIops := v },
    .always "provisionedThroughput" .int64 provisionedThroughput fun r v =>
      { r with provisionedThroughput := v }]

end Disk

/-- Accelerators of one type. -/
structure Gpu where
  acceleratorType : String
  count : Int64
  deriving DecidableEq

/-- Accelerators as JSON. -/
def Gpu.record : Record Gpu where
  title := "struct Gpu"
  blank := ⟨"", 0⟩
  fields := [
    .always "acceleratorType" .string acceleratorType fun r v => { r with acceleratorType := v },
    .always "count" .int64 count fun r v => { r with count := v }]

/-- A metadata entry. -/
structure MetadataItem where
  key : String
  value : Option String
  deriving DecidableEq

/-- Metadata entries as JSON. -/
def MetadataItem.record : Record MetadataItem where
  title := "struct MetadataItem"
  blank := ⟨"", none⟩
  fields := [
    .always "key" .string key fun r v => { r with key := v },
    .always "value" (.option .string) value fun r v => { r with value := v }]

/-- A network interface, with an external address unless that is disabled. -/
structure NetworkInterface where
  disableExternalIp : Bool
  network : String
  subnetwork : String
  deriving DecidableEq

/-- Network interfaces as JSON. -/
def NetworkInterface.record : Record NetworkInterface where
  title := "struct NetworkInterfaceSpec"
  blank := ⟨false, "", ""⟩
  fields := [
    .always "disableExternalIP" .bool disableExternalIp fun r v =>
      { r with disableExternalIp := v },
    .ifText "network" network fun r v => { r with network := v },
    .ifText "subnetwork" subnetwork fun r v => { r with subnetwork := v }]

/-- What happens to a machine on maintenance and failures. -/
structure Scheduling where
  automaticRestart : Bool
  onHostMaintenance : String
  preemptible : Bool
  deriving DecidableEq

namespace Scheduling

/-- Scheduling about which nothing is said. -/
def blank : Scheduling := ⟨false, "", false⟩

/-- Scheduling as JSON. -/
def record : Record Scheduling where
  title := "struct Scheduling"
  blank := blank
  fields := [
    .always "automaticRestart" .bool automaticRestart fun r v => { r with automaticRestart := v },
    .always "onHostMaintenance" .string onHostMaintenance fun r v =>
      { r with onHostMaintenance := v },
    .always "preemptible" .bool preemptible fun r v => { r with preemptible := v }]

end Scheduling

/-- An account that the machine acts as, and what it may do. -/
structure ServiceAccount where
  email : String
  scopes : List String
  deriving DecidableEq

/-- Service accounts as JSON. -/
def ServiceAccount.record : Record ServiceAccount where
  title := "struct ServiceAccountSpec"
  blank := ⟨"", []⟩
  fields := [
    .always "email" .string email fun r v => { r with email := v },
    .always "scopes" (.list .string) scopes fun r v => { r with scopes := v }]

end Spec

/-- **A provider specification.** -/
structure ProviderSpec where
  canIpForward : Bool
  deletionProtection : Bool
  description : Option String
  disks : List Spec.Disk
  gpu : Option Spec.Gpu
  labels : SortedMap String String
  machineType : String
  metadata : List Spec.MetadataItem
  minCpuPlatform : String
  networkInterfaces : List Spec.NetworkInterface
  region : String
  scheduling : Spec.Scheduling
  serviceAccounts : List Spec.ServiceAccount
  tags : List String
  zone : String
  deriving DecidableEq

namespace ProviderSpec

/-- A specification that says nothing. -/
def blank : ProviderSpec :=
  ⟨false, false, none, [], none, .empty, "", [], "", [], "", .blank, [], [], ""⟩

/-- Specifications as JSON. -/
def record : Record ProviderSpec where
  title := "struct ProviderSpec"
  blank := blank
  fields := [
    .always "canIpForward" .bool canIpForward fun r v => { r with canIpForward := v },
    .always "deletionProtection" .bool deletionProtection fun r v =>
      { r with deletionProtection := v },
    .ifAny "description" .string description fun r v => { r with description := v },
    .always "disks" (.list Spec.Disk.record.format) disks fun r v => { r with disks := v },
    .ifAny "gpu" Spec.Gpu.record.format gpu fun r v => { r with gpu := v },
    .ifEntries "labels" .string labels fun r v => { r with labels := v },
    .always "machineType" .string machineType fun r v => { r with machineType := v },
    .always "metadata" (.list Spec.MetadataItem.record.format) metadata fun r v =>
      { r with metadata := v },
    .ifText "minCpuPlatform" minCpuPlatform fun r v => { r with minCpuPlatform := v },
    .always "networkInterfaces" (.list Spec.NetworkInterface.record.format) networkInterfaces
      fun r v => { r with networkInterfaces := v },
    .always "region" .string region fun r v => { r with region := v },
    .always "scheduling" Spec.Scheduling.record.format scheduling fun r v =>
      { r with scheduling := v },
    .always "serviceAccounts" (.list Spec.ServiceAccount.record.format) serviceAccounts fun r v =>
      { r with serviceAccounts := v },
    .always "tags" (.list .string) tags fun r v => { r with tags := v },
    .always "zone" .string zone fun r v => { r with zone := v }]

/-- The format of specifications. -/
def format : Format ProviderSpec := record.format

end ProviderSpec

end GceMachines
