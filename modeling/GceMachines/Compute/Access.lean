import GceMachines.Compute.Service
import GceMachines.Http.Message
import GceMachines.Lifecycle.Measure

/-!
# The service over HTTP

An access consists of the address that the service is under and of a token. Each call is one
message to an address behind it, in which every name is one segment, and its answer is the JSON
text of the resource. A refusal says why in an envelope; a refusal without one is its own reason.

* `Access`, `Access.ofEndpoint`: an access.
* `Access.message`: the message of a call.
* `Access.reply`: what the answer to a message says about the call.
-/

namespace GceMachines

/-- **An access to the service.** -/
structure Access where
  base : Url
  token : String
  deriving DecidableEq, Repr

namespace Access

/-- An access to the service at an address that is given as a text. -/
def ofEndpoint (endpoint token : String) : Except ServiceError Access :=
  match Url.parse endpoint with
  | .error e => .error (.transport ("endpoint " ++ endpoint ++ ": " ++ e.message))
  | .ok base =>
    if base.cannotBeABase then
      .error (.transport ("endpoint " ++ endpoint ++ " cannot be a base url"))
    else .ok ⟨base, token⟩

/-! ### Messages -/

/-- The segments that a call adds to the address of the service. -/
def segments : Request → List String
  | .insert project zone _ => ["projects", project, "zones", zone, "instances"]
  | .delete m => ["projects", m.project, "zones", m.zone, "instances", m.name]
  | .get m => ["projects", m.project, "zones", m.zone, "instances", m.name]
  | .list project zone _ => ["projects", project, "zones", zone, "instances"]
  | .operation project zone name => ["projects", project, "zones", zone, "operations", name]

/-- The address of a call. -/
def url (a : Access) (r : Request) : Url :=
  let u := a.base.append (segments r)
  match r with
  | .list _ _ (some token) => u.appendPair "pageToken" token
  | _ => u

/-- The method of a call. -/
def method : Request → Http.Method
  | .insert _ _ _ => .post
  | .delete _ => .delete
  | _ => .get

/-- The contents of a call. -/
def content : Request → Http.Content
  | .insert _ _ body => .json (Instance.format.encode body)
  | _ => .empty

/-- **The message of a call.** -/
def message (a : Access) (r : Request) : Except Http.Failure Http.Message :=
  Http.Message.make (method r) (a.url r) (some a.token) (content r)

/-! ### Answers -/

/-- The name of a call. -/
def callName : Request → String
  | .insert _ _ _ => "instances.insert"
  | .delete _ => "instances.delete"
  | .get _ => "instances.get"
  | .list _ _ _ => "instances.list"
  | .operation _ _ _ => "zoneOperations.get"

/-- How the reply to a call is written. -/
def replyFormat : (r : Request) → Json.Format r.Reply
  | .insert _ _ _ => Operation.format
  | .delete _ => Operation.format
  | .get _ => Instance.format
  | .list _ _ _ => InstanceList.format
  | .operation _ _ _ => Operation.format

/-- What an envelope says. -/
def refusalRecord : Json.Record String where
  title := "struct Body"
  blank := ""
  fields := [.always "message" .string id fun _ v => v]

/-- The envelope in which a refusal says why. -/
def envelopeRecord : Json.Record String where
  title := "struct Envelope"
  blank := ""
  fields := [(Json.Field.always "error" refusalRecord.format id fun _ v => v).needed]

/-- The refusal that an answer is. -/
def refusal (a : Http.Answer) : ServiceError :=
  match envelopeRecord.format.decode a.body with
  | .ok text => .api a.status (if text.isEmpty then a.text else text)
  | .error _ => .api a.status a.text

/-- The failure of a call whose message has no answer. -/
def failure (f : Http.Failure) : ServiceError :=
  match f with
  | .broken => .decode f.message
  | _ => .transport f.message

/-- **What an answer says about a call.** -/
def reply (r : Request) : Except Http.Failure Http.Answer → Except ServiceError r.Reply
  | .error f => .error (failure f)
  | .ok a =>
    if a.isSuccess then
      ((replyFormat r).decode a.body).mapError fun f =>
        .decode (callName r ++ ": " ++ f.message)
    else .error (refusal a)

/-- What is counted of a call: an answer that came in full. -/
def measure? (r : Request) : Except Http.Failure Http.Answer → Option Measure
  | .ok a => some (.apiRequest (callName r) a.status)
  | .error _ => none

end Access

end GceMachines
