import GceMachines.Json.Record
import GceMachines.Text.Moment

/-!
# What a cluster says about its objects

Every object comes with metadata: its name, its labels, who owns it, when it was made and who
changed it. None of that matters here, but it has to be well formed.

* `metadata`: the metadata of an object as JSON.
-/

namespace GceMachines.Kubernetes

/-- A member that may be missing or `null`, and whose value does not matter. -/
def member {α ρ : Type} (name : String) (f : Json.Format α) : Json.Field ρ :=
  .ifAny name f (fun _ => none) fun r _ => r

/-- Moments as JSON. -/
def moment : Json.Format Unit where
  write _ := .string "1970-01-01T00:00:00Z"
  read
    | _, .string t => t.value.bind fun s =>
      match Text.Moment.parse s with
      | .ok _ => .ok ()
      | .error f => .error (.refused f.message)
    | _, d => .error (d.mismatch "an RFC 3339 formatted date and time string")

/-- Members that hold texts. -/
def texts (names : List String) : List (Json.Field Unit) := names.map fun n => member n .string

/-- Who changed which parts of an object. -/
def change : Json.Record Unit where
  title := "ManagedFieldsEntry"
  blank := ()
  fields := texts ["apiVersion", "fieldsType", "manager", "operation", "subresource"] ++
    [member "fieldsV1" .any, member "time" moment]

/-- The owner of an object. -/
def owner : Json.Record Unit where
  title := "OwnerReference"
  blank := ()
  fields := texts ["apiVersion", "kind", "name", "uid"] ++
    [member "blockOwnerDeletion" .bool, member "controller" .bool]

/-- **The metadata of an object.** -/
def metadata : Json.Record Unit where
  title := "ObjectMeta"
  blank := ()
  fields :=
    texts ["generateName", "name", "namespace", "resourceVersion", "selfLink", "uid"] ++ [
      member "annotations" (.map .string),
      member "creationTimestamp" moment,
      member "deletionGracePeriodSeconds" .int64,
      member "deletionTimestamp" moment,
      member "finalizers" (.list .string),
      member "generation" .int64,
      member "labels" (.map .string),
      member "managedFields" (.list change.looseFormat),
      member "ownerReferences" (.list owner.looseFormat)]

end GceMachines.Kubernetes
