import GceMachines.Json.Record

/-!
# Operations

The service answers a change with an operation, which runs until it is done and may then carry
errors.

* `OperationStatus`: a status that is not known reads as `unknown`.
* `Operation`: an operation, with `Operation.format`.
-/

namespace GceMachines

open Json

/-- How far an operation is. -/
inductive OperationStatus
  | pending
  | running
  | done
  /-- A status of any other name. -/
  | unknown
  deriving DecidableEq, Repr

namespace OperationStatus

/-- The name of a status. -/
def name : OperationStatus → String
  | .pending => "PENDING"
  | .running => "RUNNING"
  | .done => "DONE"
  | .unknown => "UNKNOWN"

/-- The status of a name. -/
def ofName (s : String) : OperationStatus :=
  if s = "PENDING" then .pending
  else if s = "RUNNING" then .running
  else if s = "DONE" then .done
  else .unknown

theorem ofName_name (s : OperationStatus) : ofName s.name = s := by cases s <;> decide

/-- Statuses as JSON. -/
def format : Format OperationStatus := .unitEnum name fun s => .ok (ofName s)

end OperationStatus

/-- One error of an operation. -/
structure OperationFault where
  code : String
  location : Option String
  message : String
  deriving DecidableEq, Repr

/-- Errors of operations as JSON. -/
def OperationFault.record : Record OperationFault where
  title := "struct OperationErrorEntry"
  blank := ⟨"", none, ""⟩
  fields := [
    .always "code" .string code fun r v => { r with code := v },
    .ifAny "location" .string location fun r v => { r with location := v },
    .always "message" .string message fun r v => { r with message := v }]

/-- What a failed operation carries. -/
structure OperationError where
  errors : List OperationFault
  deriving DecidableEq, Repr

/-- What failed operations carry, as JSON. -/
def OperationError.record : Record OperationError where
  title := "struct OperationError"
  blank := ⟨[]⟩
  fields := [
    .always "errors" (.list OperationFault.record.format) errors fun r v => { r with errors := v }]

/-- **An operation.** -/
structure Operation where
  name : String
  status : OperationStatus
  error : Option OperationError
  operationType : Option String
  targetLink : Option String
  zone : Option String
  httpErrorStatusCode : Option Int32
  progress : Option Int32
  deriving DecidableEq

namespace Operation

/-- An operation about which nothing is said. -/
def blank : Operation := ⟨"", .pending, none, none, none, none, none, none⟩

/-- Operations as JSON. -/
def record : Record Operation where
  title := "struct Operation"
  blank := blank
  fields := [
    (.always "name" .string name fun r v => { r with name := v } : Json.Field _).needed,
    .always "status" OperationStatus.format status fun r v => { r with status := v },
    .ifAny "error" OperationError.record.format error fun r v => { r with error := v },
    .ifAny "operationType" .string operationType fun r v => { r with operationType := v },
    .ifAny "targetLink" .string targetLink fun r v => { r with targetLink := v },
    .ifAny "zone" .string zone fun r v => { r with zone := v },
    .ifAny "httpErrorStatusCode" .int32 httpErrorStatusCode fun r v =>
      { r with httpErrorStatusCode := v },
    .ifAny "progress" .int32 progress fun r v => { r with progress := v }]

/-- The format of operations. -/
def format : Format Operation := record.format

/-- Whether an operation has come to its end. -/
def isDone (o : Operation) : Bool := o.status == .done

end Operation

end GceMachines
