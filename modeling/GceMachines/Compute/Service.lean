import GceMachines.Compute.Instance
import GceMachines.Compute.Operation
import GceMachines.Machine.Id
import GceMachines.Machine.Error

/-!
# The instance service

The library asks the service five things. Each call is answered by the resource it is about or
refused with an error.

* `Request`: the five calls, and `Request.Reply`: what answers each.
* `ServiceError`: why a call, or the way to the service, fails.
* `ServiceError.toMachineError`: the same failure as a failure of a lifecycle call.
-/

namespace GceMachines

/-- **Why the service does not answer a call.** -/
inductive ServiceError
  /-- The service refuses, with an HTTP status. -/
  | api (status : Nat) (message : String)
  /-- The service cannot be reached. -/
  | transport (message : String)
  /-- The answer cannot be read. -/
  | decode (message : String)
  /-- There is no access token. -/
  | auth (message : String)
  deriving DecidableEq, Repr

namespace ServiceError

/-- The wording of a failure. -/
def message : ServiceError → String
  | .api status message => "googleapi: Error " ++ toString status ++ ": " ++ message
  | .transport message => "transport: " ++ message
  | .decode message => "decode: " ++ message
  | .auth message => "auth: " ++ message

/-- Whether the service says that the resource is absent. -/
def isNotFound : ServiceError → Bool
  | .api status _ => status == 404
  | _ => false

/-- The failure as one of a lifecycle call. -/
def toMachineError : ServiceError → MachineError
  | .auth message => .credentials message
  | e => .remote e.message

end ServiceError

/-- **A call to the service.** -/
inductive Request
  | insert (project zone : String) (body : Instance)
  | delete (target : MachineId)
  | get (target : MachineId)
  /-- One page of the instances of a zone, the first one without a token. -/
  | list (project zone : String) (token : Option String)
  | operation (project zone name : String)
  deriving DecidableEq

namespace Request

/-- What answers a call. -/
abbrev Reply : Request → Type
  | insert _ _ _ => Operation
  | delete _ => Operation
  | get _ => Instance
  | list _ _ _ => InstanceList
  | operation _ _ _ => Operation

/-- Whether a call asks for a change. -/
def isMutation : Request → Bool
  | insert _ _ _ => true
  | delete _ => true
  | _ => false

end Request

end GceMachines
