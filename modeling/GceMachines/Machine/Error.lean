import GceMachines.Json.Record

/-!
# Failures of lifecycle calls

A call that fails says so by the kind of its failure, which callers look at, and by a text. Every
kind has one of the status codes that the orchestrator knows.

* `MachineError`: the kinds of failure, with `message` and `code`.
* `DriverError`: what the orchestrator is told: a code and a text.
-/

namespace GceMachines

/-- The status codes that the orchestrator knows. -/
inductive ErrorCode
  | notFound
  | resourceExhausted
  | invalidArgument
  | deadlineExceeded
  | canceled
  | unauthenticated
  | internal
  deriving DecidableEq, Repr

namespace ErrorCode

/-- All codes. -/
def all : List ErrorCode :=
  [.notFound, .resourceExhausted, .invalidArgument, .deadlineExceeded, .canceled,
    .unauthenticated, .internal]

/-- The name of a code. -/
def name : ErrorCode → String
  | .notFound => "NotFound"
  | .resourceExhausted => "ResourceExhausted"
  | .invalidArgument => "InvalidArgument"
  | .deadlineExceeded => "DeadlineExceeded"
  | .canceled => "Canceled"
  | .unauthenticated => "Unauthenticated"
  | .internal => "Internal"

theorem mem_all (c : ErrorCode) : c ∈ all := by cases c <;> decide

/-- Codes as JSON: their names. -/
def format : Json.Format ErrorCode :=
  .unitEnum name fun s =>
    match all.find? (·.name = s) with
    | some c => .ok c
    | none => .error (.unknownVariant s (all.map name))

end ErrorCode

/-- **Why a lifecycle call fails.** -/
inductive MachineError
  /-- No machine of the name is there. -/
  | notFound (name : String)
  /-- The zone has no room, or a quota is used up. -/
  | resourceExhausted (text : String)
  | malformedIdentifier (id : String)
  /-- The operation was not done in time. -/
  | timeout (operation : String) (afterMs : Nat)
  | cancelled (operation : String)
  /-- Any other failure of the service or of an operation. -/
  | remote (text : String)
  | credentials (text : String)
  | invalidSpec (violations : List String)
  deriving DecidableEq, Repr

namespace MachineError

/-- The code of a failure. -/
def code : MachineError → ErrorCode
  | .notFound _ => .notFound
  | .resourceExhausted _ => .resourceExhausted
  | .malformedIdentifier _ => .invalidArgument
  | .timeout _ _ => .deadlineExceeded
  | .cancelled _ => .canceled
  | .remote _ => .internal
  | .credentials _ => .unauthenticated
  | .invalidSpec _ => .invalidArgument

/-- The wording of a failure. A time is given in whole seconds. -/
def message : MachineError → String
  | .notFound name => "machine name=" ++ name ++ " not found"
  | .resourceExhausted text => text
  | .malformedIdentifier id => "invalid format of machine id: " ++ id
  | .timeout operation ms =>
    "operation " ++ operation ++ " not done after " ++ toString (ms / 1000) ++ "s"
  | .cancelled operation => "waiting for " ++ operation ++ " cancelled"
  | .remote text => text
  | .credentials text => "credentials: " ++ text
  | .invalidSpec violations => "invalid provider spec: " ++ "; ".intercalate violations

/-- Whether a failure says that the machine is absent. -/
def isNotFound : MachineError → Bool
  | .notFound _ => true
  | _ => false

end MachineError

/-- **A failure as the orchestrator is told it.** -/
structure DriverError where
  code : ErrorCode
  message : String
  deriving DecidableEq, Repr

namespace DriverError

/-- The failure of an activity, with its cause. -/
def ofCause (activity : String) (cause : MachineError) : DriverError :=
  ⟨cause.code, activity ++ " failed: " ++ cause.message⟩

/-- The wording shown to people. -/
def display (e : DriverError) : String :=
  "machine codes error: code = [" ++ e.code.name ++ "] message = [" ++ e.message ++ "]"

/-- Failures as JSON. -/
def record : Json.Record DriverError where
  title := "struct DriverError"
  blank := ⟨.internal, ""⟩
  fields := [
    (Json.Field.always "code" ErrorCode.format code fun e v => { e with code := v }).needed,
    (Json.Field.always "message" .string message fun e v => { e with message := v }).needed]

end DriverError

end GceMachines
