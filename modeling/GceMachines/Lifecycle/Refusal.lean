import GceMachines.Compute.Service
import GceMachines.Text.Split

/-!
# Refused changes

A change can be refused when it is asked for, or its operation can end with errors. Either way a
zone that has no room and a quota that is used up are told apart from everything else.

* `ofSubmission`: the failure of a call that was refused.
* `ofOperation`: the failure of an operation that ended with errors.
-/

namespace GceMachines.Lifecycle

/-- The error codes of an operation that mean that the zone has no room. -/
def capacityCodes : List String :=
  ["RESOURCE_POOL_EXHAUSTED", "ZONE_RESOURCE_POOL_EXHAUSTED",
    "ZONE_RESOURCE_POOL_EXHAUSTED_WITH_DETAILS"]

/-- What a refusal says when the zone does not have a machine type. -/
def missingInZone : String := "does not exist in zone"

/-- Whether an error code means that there is no room or no quota left. -/
def isExhaustionCode (code : String) : Bool :=
  code ∈ capacityCodes || Text.contains code "QUOTA"

/-- The failure of a call that was refused. -/
def ofSubmission (e : ServiceError) : MachineError :=
  if Text.contains e.message missingInZone then .resourceExhausted e.message
  else e.toMachineError

/-- The failure of an operation that ended with errors; the first error decides its kind. -/
def ofOperation (operation : String) (errors : List OperationFault) : MachineError :=
  match errors with
  | [] => .remote ("operation " ++ operation ++ " failed without error details")
  | first :: _ =>
    let joined := "; ".intercalate (errors.map OperationFault.message)
    if isExhaustionCode first.code then .resourceExhausted joined else .remote joined

end GceMachines.Lifecycle
