import GceMachines.Json.Record

/-!
# Instances

An instance as the service takes it and shows it. Only what the library sets or looks at is kept;
everything else in an answer is passed over. Members without a value are left out when an instance
is written, and 64-bit numbers travel as decimal strings.

* `Instance`: an instance, with `Instance.format`.
* `Compute.AttachedDisk`, `Compute.NetworkInterface`, …: its parts, each with its record.
* `InstanceList`: one page of a listing.
-/

namespace GceMachines

open Json

namespace Compute

/-- The tags of an instance. -/
structure Tags where
  items : List String
  fingerprint : Option String
  deriving DecidableEq

/-- Tags as JSON. -/
def Tags.record : Record Tags where
  title := "struct Tags"
  blank := ⟨[], none⟩
  fields := [
    .ifItems "items" .string items fun r v => { r with items := v },
    .ifAny "fingerprint" .string fingerprint fun r v => { r with fingerprint := v }]

/-- How a new disk is made. -/
structure DiskParams where
  diskSizeGb : Option Int64
  diskType : String
  labels : SortedMap String String
  sourceImage : Option String
  provisionedIops : Option Int64
  provisionedThroughput : Option Int64
  deriving DecidableEq

/-- The making of a disk as JSON. -/
def DiskParams.record : Record DiskParams where
  title := "struct AttachedDiskInitializeParams"
  blank := ⟨none, "", .empty, none, none, none⟩
  fields := [
    .ifAny "diskSizeGb" .decimal64 diskSizeGb fun r v => { r with diskSizeGb := v },
    .ifText "diskType" diskType fun r v => { r with diskType := v },
    .ifEntries "labels" .string labels fun r v => { r with labels := v },
    .ifAny "sourceImage" .string sourceImage fun r v => { r with sourceImage := v },
    .ifAny "provisionedIops" .decimal64 provisionedIops fun r v => { r with provisionedIops := v },
    .ifAny "provisionedThroughput" .decimal64 provisionedThroughput fun r v =>
      { r with provisionedThroughput := v }]

/-- The key that encrypts a disk. -/
structure EncryptionKey where
  kmsKeyName : Option String
  kmsKeyServiceAccount : Option String
  deriving DecidableEq

/-- Encryption keys as JSON. -/
def EncryptionKey.record : Record EncryptionKey where
  title := "struct CustomerEncryptionKey"
  blank := ⟨none, none⟩
  fields := [
    .ifAny "kmsKeyName" .string kmsKeyName fun r v => { r with kmsKeyName := v },
    .ifAny "kmsKeyServiceAccount" .string kmsKeyServiceAccount fun r v =>
      { r with kmsKeyServiceAccount := v }]

/-- A disk of an instance. -/
structure AttachedDisk where
  autoDelete : Bool
  boot : Bool
  type : Option String
  interface : Option String
  deviceName : Option String
  source : Option String
  initializeParams : Option DiskParams
  encryptionKey : Option EncryptionKey
  deriving DecidableEq

namespace AttachedDisk

/-- A disk about which nothing is said. -/
def blank : AttachedDisk := ⟨false, false, none, none, none, none, none, none⟩

/-- Disks of instances as JSON. -/
def record : Record AttachedDisk where
  title := "struct AttachedDisk"
  blank := blank
  fields := [
    .always "autoDelete" .bool autoDelete fun r v => { r with autoDelete := v },
    .always "boot" .bool boot fun r v => { r with boot := v },
    .ifAny "type" .string type fun r v => { r with type := v },
    .ifAny "interface" .string interface fun r v => { r with interface := v },
    .ifAny "deviceName" .string deviceName fun r v => { r with deviceName := v },
    .ifAny "source" .string source fun r v => { r with source := v },
    .ifAny "initializeParams" DiskParams.record.format initializeParams fun r v =>
      { r with initializeParams := v },
    .ifAny "diskEncryptionKey" EncryptionKey.record.format encryptionKey fun r v =>
      { r with encryptionKey := v }]

end AttachedDisk

/-- Accelerators of an instance. -/
structure Accelerator where
  acceleratorCount : Int32
  acceleratorType : String
  deriving DecidableEq

/-- Accelerators as JSON. -/
def Accelerator.record : Record Accelerator where
  title := "struct AcceleratorConfig"
  blank := ⟨0, ""⟩
  fields := [
    .always "acceleratorCount" .int32 acceleratorCount fun r v => { r with acceleratorCount := v },
    .always "acceleratorType" .string acceleratorType fun r v => { r with acceleratorType := v }]

/-- A metadata entry of an instance. -/
structure MetadataItem where
  key : String
  value : Option String
  deriving DecidableEq

/-- Metadata entries as JSON. -/
def MetadataItem.record : Record MetadataItem where
  title := "struct MetadataItem"
  blank := ⟨"", none⟩
  fields := [
    (.always "key" .string key fun r v => { r with key := v } : Json.Field _).needed,
    .ifAny "value" .string value fun r v => { r with value := v }]

/-- The metadata of an instance. -/
structure Metadata where
  items : List MetadataItem
  fingerprint : Option String
  deriving DecidableEq

/-- Metadata as JSON. -/
def Metadata.record : Record Metadata where
  title := "struct Metadata"
  blank := ⟨[], none⟩
  fields := [
    .ifItems "items" MetadataItem.record.format items fun r v => { r with items := v },
    .ifAny "fingerprint" .string fingerprint fun r v => { r with fingerprint := v }]

/-- External access to an interface. One without any member asks for a temporary address. -/
structure AccessConfig where
  name : Option String
  type : Option String
  natIp : Option String
  deriving DecidableEq

namespace AccessConfig

/-- An access that asks for a temporary address. -/
def blank : AccessConfig := ⟨none, none, none⟩

/-- External access as JSON. -/
def record : Record AccessConfig where
  title := "struct AccessConfig"
  blank := blank
  fields := [
    .ifAny "name" .string name fun r v => { r with name := v },
    .ifAny "type" .string type fun r v => { r with type := v },
    .ifAny "natIP" .string natIp fun r v => { r with natIp := v }]

end AccessConfig

/-- A network interface of an instance. -/
structure NetworkInterface where
  name : Option String
  network : Option String
  subnetwork : Option String
  networkIp : Option String
  accessConfigs : List AccessConfig
  deriving DecidableEq

namespace NetworkInterface

/-- An interface about which nothing is said. -/
def blank : NetworkInterface := ⟨none, none, none, none, []⟩

/-- Network interfaces as JSON. -/
def record : Record NetworkInterface where
  title := "struct NetworkInterface"
  blank := blank
  fields := [
    .ifAny "name" .string name fun r v => { r with name := v },
    .ifAny "network" .string network fun r v => { r with network := v },
    .ifAny "subnetwork" .string subnetwork fun r v => { r with subnetwork := v },
    .ifAny "networkIP" .string networkIp fun r v => { r with networkIp := v },
    .ifItems "accessConfigs" AccessConfig.record.format accessConfigs fun r v =>
      { r with accessConfigs := v }]

end NetworkInterface

/-- What happens to an instance on maintenance and failures. -/
structure Scheduling where
  automaticRestart : Option Bool
  onHostMaintenance : Option String
  preemptible : Bool
  deriving DecidableEq

/-- Scheduling as JSON. -/
def Scheduling.record : Record Scheduling where
  title := "struct Scheduling"
  blank := ⟨none, none, false⟩
  fields := [
    .ifAny "automaticRestart" .bool automaticRestart fun r v => { r with automaticRestart := v },
    .ifAny "onHostMaintenance" .string onHostMaintenance fun r v =>
      { r with onHostMaintenance := v },
    .always "preemptible" .bool preemptible fun r v => { r with preemptible := v }]

/-- An account that an instance acts as. -/
structure ServiceAccount where
  email : String
  scopes : List String
  deriving DecidableEq

/-- Service accounts as JSON. -/
def ServiceAccount.record : Record ServiceAccount where
  title := "struct ServiceAccount"
  blank := ⟨"", []⟩
  fields := [
    .always "email" .string email fun r v => { r with email := v },
    .always "scopes" (.list .string) scopes fun r v => { r with scopes := v }]

end Compute

open Compute

/-- **An instance.** -/
structure Instance where
  id : Option String
  name : String
  description : Option String
  machineType : String
  status : Option String
  zone : Option String
  canIpForward : Bool
  deletionProtection : Bool
  minCpuPlatform : Option String
  labels : SortedMap String String
  tags : Option Tags
  disks : List AttachedDisk
  guestAccelerators : List Accelerator
  metadata : Option Metadata
  networkInterfaces : List NetworkInterface
  scheduling : Option Scheduling
  serviceAccounts : List ServiceAccount
  selfLink : Option String
  creationTimestamp : Option String
  deriving DecidableEq

namespace Instance

/-- An instance about which nothing is said. -/
def blank : Instance :=
  ⟨none, "", none, "", none, none, false, false, none, .empty, none, [], [], none, [], none, [],
    none, none⟩

/-- Instances as JSON. -/
def record : Record Instance where
  title := "struct Instance"
  blank := blank
  fields := [
    .ifAny "id" .string id fun r v => { r with id := v },
    .always "name" .string name fun r v => { r with name := v },
    .ifAny "description" .string description fun r v => { r with description := v },
    .ifText "machineType" machineType fun r v => { r with machineType := v },
    .ifAny "status" .string status fun r v => { r with status := v },
    .ifAny "zone" .string zone fun r v => { r with zone := v },
    .always "canIpForward" .bool canIpForward fun r v => { r with canIpForward := v },
    .always "deletionProtection" .bool deletionProtection fun r v =>
      { r with deletionProtection := v },
    .ifAny "minCpuPlatform" .string minCpuPlatform fun r v => { r with minCpuPlatform := v },
    .ifEntries "labels" .string labels fun r v => { r with labels := v },
    .ifAny "tags" Tags.record.format tags fun r v => { r with tags := v },
    .ifItems "disks" AttachedDisk.record.format disks fun r v => { r with disks := v },
    .ifItems "guestAccelerators" Accelerator.record.format guestAccelerators fun r v =>
      { r with guestAccelerators := v },
    .ifAny "metadata" Metadata.record.format metadata fun r v => { r with metadata := v },
    .ifItems "networkInterfaces" NetworkInterface.record.format networkInterfaces fun r v =>
      { r with networkInterfaces := v },
    .ifAny "scheduling" Scheduling.record.format scheduling fun r v => { r with scheduling := v },
    .ifItems "serviceAccounts" ServiceAccount.record.format serviceAccounts fun r v =>
      { r with serviceAccounts := v },
    .ifAny "selfLink" .string selfLink fun r v => { r with selfLink := v },
    .ifAny "creationTimestamp" .string creationTimestamp fun r v =>
      { r with creationTimestamp := v }]

/-- The format of instances. -/
def format : Format Instance := record.format

/-- The tags of an instance, none when it has no tag member. -/
def tagItems (i : Instance) : List String := (i.tags.map Tags.items).getD []

end Instance

/-- **One page of a listing**, with the token of the next page. -/
structure InstanceList where
  items : List Instance
  nextPageToken : Option String
  deriving DecidableEq

namespace InstanceList

/-- Pages as JSON. -/
def record : Record InstanceList where
  title := "struct InstanceList"
  blank := ⟨[], none⟩
  fields := [
    .always "items" (.list Instance.format) items fun r v => { r with items := v },
    .ifAny "nextPageToken" .string nextPageToken fun r v => { r with nextPageToken := v }]

/-- The format of pages. -/
def format : Format InstanceList := record.format

end InstanceList

end GceMachines
