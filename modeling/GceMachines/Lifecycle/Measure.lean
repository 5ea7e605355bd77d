import GceMachines.Machine.Error

/-!
# Measures

What is counted while the library works. Each measure has a name and labels; how often it was
touched is what a reader of the measures sees.

* `Measure`: what can be counted, and `Measure.text`: its name with its labels.
-/

namespace GceMachines

/-- The lifecycle calls that are counted. -/
inductive LifecycleCall
  | create
  | delete
  | status
  | list
  deriving DecidableEq, Repr

/-- The name of a lifecycle call. -/
def LifecycleCall.name : LifecycleCall → String
  | .create => "create"
  | .delete => "delete"
  | .status => "status"
  | .list => "list"

/-- **What is counted.** -/
inductive Measure
  /-- A lifecycle call that ended, with its failure if it failed. -/
  | finished (call : LifecycleCall) (failure : Option ErrorCode)
  /-- A look at an operation. -/
  | poll
  /-- A wait for an operation that ended. -/
  | operationWait
  /-- A call to the service that was answered in full, with the HTTP status. -/
  | apiRequest (call : String) (status : Nat)
  deriving DecidableEq, Repr

/-- The name of a measure with labels. -/
def Measure.labelled (name : String) (labels : List (String × String)) : String :=
  name ++ "\x7b" ++ ",".intercalate (labels.map fun (k, v) => k ++ "=" ++ v) ++ "\x7d"

/-- The name of a measure with its labels. -/
def Measure.text : Measure → String
  | .finished call failure =>
    labelled "gce_lifecycle_total"
      [("op", call.name), ("outcome", (failure.map ErrorCode.name).getD "ok")]
  | .poll => labelled "gce_op_polls_total" []
  | .operationWait => labelled "gce_op_wait_ms" []
  | .apiRequest call status =>
    labelled "gce_api_requests_total" [("call", call), ("status", toString status)]

end GceMachines
