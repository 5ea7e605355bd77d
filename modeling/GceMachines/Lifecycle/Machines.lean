import GceMachines.Lifecycle.Discovery
import GceMachines.Lifecycle.InstanceBody
import GceMachines.Lifecycle.Wait

/-!
# Lifecycle calls

Creating, deleting, finding, listing and describing machines. Each call reads the project from the
secret and connects anew. Deleting asks for a deletion only after it found the machine by name and
markers, and a machine that vanishes in between counts as deleted.

* `create`, `delete`, `status`, `list`: counted with how they end.
* `describe`: the instance behind an id.
-/

namespace GceMachines.Lifecycle

/-- How calls wait, and how many pages of a listing they walk over. -/
structure Limits where
  poll : PollConfig
  pages : Nat

/-- Counts how a call ends. -/
def counted {α : Type} (call : LifecycleCall) (p : Plan (Except MachineError α)) :
    Plan (Except MachineError α) :=
  p.bind fun r =>
    let failure := match r with
      | .ok _ => none
      | .error e => some e.code
    Plan.counting (.finished call failure) (.done r)

/-- Connects with a secret. -/
def connect (secret : Secret) : Plan (Except MachineError Unit) :=
  .ask (.connect secret) fun r => .done (r.mapError ServiceError.toMachineError)

/-- Reads the project from a secret and connects with it. -/
def enter (secret : Secret) : Plan (Except MachineError String) :=
  match secret.project with
  | .error e => Plan.fail e
  | .ok project => (connect secret).bindOk fun _ => Plan.succeed project

/-- Waits for an operation of a machine, whose id is then the result. -/
def finish (limits : Limits) (m : MachineId) (op : Operation) : Plan (Except MachineError String) :=
  (awaitOperation ⟨m.project, m.zone, op.name⟩ limits.poll).bindOk fun _ => Plan.succeed m.text

/-- **Creates a machine** and waits until that is done; the result is its id. -/
def create (limits : Limits) (name : String) (spec : ProviderSpec) (secret : Secret) :
    Plan (Except MachineError String) :=
  counted .create <| (enter secret).bindOk fun project =>
    let body := instanceBody name project spec secret.userData
    .ask (.call (.insert project spec.zone body)) fun
      | .error e => Plan.fail (ofSubmission e)
      | .ok op => finish limits ⟨project, spec.zone, name⟩ op

/-- **Deletes a machine** that is found by its name and markers; the result is its id. -/
def delete (limits : Limits) (name : String) (spec : ProviderSpec) (secret : Secret) :
    Plan (Except MachineError String) :=
  counted .delete <| (enter secret).bindOk fun project =>
    (discover limits.pages project spec.zone spec.tags (some name)).bindOk fun found =>
      if found.isEmpty then Plan.fail (.notFound name)
      else
        let m : MachineId := ⟨project, spec.zone, name⟩
        .ask (.call (.delete m)) fun
          | .error e => if e.isNotFound then Plan.succeed m.text else Plan.fail e.toMachineError
          | .ok op => finish limits m op

/-- **The id of a machine** that is found by its name and markers. -/
def status (limits : Limits) (name : String) (spec : ProviderSpec) (secret : Secret) :
    Plan (Except MachineError String) :=
  counted .status <| (enter secret).bindOk fun project =>
    (discover limits.pages project spec.zone spec.tags (some name)).bindOk fun found =>
      match found.entries with
      | [] => Plan.fail (.notFound name)
      | (id, _) :: _ => Plan.succeed id

/-- **All machines** that carry the markers of a specification. -/
def list (limits : Limits) (spec : ProviderSpec) (secret : Secret) :
    Plan (Except MachineError Discovered) :=
  counted .list <| (enter secret).bindOk fun project =>
    discover limits.pages project spec.zone spec.tags none

/-- **The instance behind an id.** -/
def describe (id : String) (secret : Secret) : Plan (Except MachineError Instance) :=
  match MachineId.parse? id with
  | none => Plan.fail (.malformedIdentifier id)
  | some m => (connect secret).bindOk fun _ =>
    .ask (.call (.get m)) fun
      | .error e =>
        Plan.fail (if e.isNotFound then .notFound m.name else e.toMachineError)
      | .ok i => Plan.succeed i

end GceMachines.Lifecycle
