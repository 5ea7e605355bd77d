import GceMachines.Lifecycle.Machines
import GceMachines.Spec.Admission

/-!
# The driver

What the orchestrator calls. It hands over specifications as texts, which have to be readable and
break no rule before anything is asked of the service. A failure names the activity that failed.

* `Driver.create`, `Driver.delete`, `Driver.status`, `Driver.list`, `Driver.describe`.
* `Driver.validate`: the gate alone.
-/

namespace GceMachines

/-- What the orchestrator learns of a machine. -/
structure MachineResponse where
  providerId : String
  nodeName : String
  deriving DecidableEq, Repr

/-- What the orchestrator learns of a machine, as JSON. -/
def MachineResponse.record : Json.Record MachineResponse where
  title := "struct MachineResponse"
  blank := ⟨"", ""⟩
  fields := [
    (.always "provider_id" .string providerId fun r v => { r with providerId := v } :
      Json.Field _).needed,
    (.always "node_name" .string nodeName fun r v => { r with nodeName := v } :
      Json.Field _).needed]

/-- The machines of a specification: their names under their ids. -/
structure MachineListing where
  machineList : SortedMap String String
  deriving DecidableEq

/-- Listings as JSON. -/
def MachineListing.record : Json.Record MachineListing where
  title := "struct ListMachinesResponse"
  blank := ⟨.empty⟩
  fields := [
    (.always "machine_list" (.map .string) machineList fun r v => { r with machineList := v } :
      Json.Field _).needed]

namespace Driver

open Lifecycle

/-- A plan whose failures are those of an activity. -/
def during {α β : Type} (activity : String) (p : Plan (Except MachineError α)) (f : α → β) :
    Plan (Except DriverError β) :=
  p.bind fun
    | .ok a => .done (.ok (f a))
    | .error e => .done (.error (.ofCause activity e))

/-- A plan for a specification that passes the gate. -/
def gated {α β : Type} (activity : String) (text : List UInt8) (secret : Secret)
    (p : ProviderSpec → Plan (Except MachineError α)) (f : α → β) :
    Plan (Except DriverError β) :=
  match Admission.accept text secret with
  | .error e => .done (.error (.ofCause activity e))
  | .ok spec => during activity (p spec) f

/-- **Creates a machine.** -/
def create (limits : Limits) (name : String) (spec : List UInt8) (secret : Secret) :
    Plan (Except DriverError MachineResponse) :=
  gated ("Create machine " ++ Text.quoted name) spec secret
    (fun s => Lifecycle.create limits name s secret) fun id => ⟨id, name⟩

/-- **Deletes a machine.** -/
def delete (limits : Limits) (name : String) (spec : List UInt8) (secret : Secret) :
    Plan (Except DriverError MachineResponse) :=
  gated ("Delete machine " ++ Text.quoted name) spec secret
    (fun s => Lifecycle.delete limits name s secret) fun id => ⟨id, name⟩

/-- **Says whether a machine is there.** -/
def status (limits : Limits) (name : String) (spec : List UInt8) (secret : Secret) :
    Plan (Except DriverError MachineResponse) :=
  gated ("Get status of machine " ++ Text.quoted name) spec secret
    (fun s => Lifecycle.status limits name s secret) fun id => ⟨id, name⟩

/-- **Lists the machines** of a specification. -/
def list (limits : Limits) (spec : List UInt8) (secret : Secret) :
    Plan (Except DriverError MachineListing) :=
  gated "List machines" spec secret (fun s => Lifecycle.list limits s secret) fun found => ⟨found⟩

/-- **Shows the instance behind an id.** -/
def describe (id : String) (secret : Secret) : Plan (Except DriverError Instance) :=
  during ("Describe machine " ++ Text.quoted id) (Lifecycle.describe id secret) fun i => i

/-- **The specification of a text**, if it passes the gate. -/
def validate (spec : List UInt8) (secret : Secret) : Except DriverError ProviderSpec :=
  (Admission.accept spec secret).mapError (.ofCause "Validate provider spec")

end Driver

end GceMachines
