import GceMachines.Http.Status
import GceMachines.Kubernetes.Cluster
import GceMachines.Kubernetes.Metadata
import GceMachines.Machine.Secret

/-!
# Secrets in a cluster

A secret in a cluster is asked for by its namespace and its name. Its data are bytes under keys,
written in Base64. A refusal of the cluster comes as a status object; one that does not is put
into such an object.

* `SecretName`, `SecretName.parse?`: what names a secret.
* `SecretName.fetch`: the errand that fetches one.
-/

namespace GceMachines.Kubernetes

/-- **What names a secret in a cluster.** -/
structure SecretName where
  namespaceName : String
  name : String
  deriving DecidableEq, Repr

/-- A refusal of a cluster. -/
structure ClusterStatus where
  status : String
  message : String
  reason : String
  code : Nat
  deriving DecidableEq, Repr

namespace ClusterStatus

/-- Codes of refusals as JSON. -/
def codeFormat : Json.Format Nat where
  write n := .int n
  read _ d := (Json.Format.readInt 0 65535 "u16" d).map Int.toNat

/-- Refusals as JSON. -/
def record : Json.Record ClusterStatus where
  title := "struct ErrorResponse"
  blank := ⟨"", "", "", 0⟩
  fields := [
    (.always "status" .string status fun r v => { r with status := v } : Json.Field _).needed,
    .always "message" .string message fun r v => { r with message := v },
    .always "reason" .string reason fun r v => { r with reason := v },
    (.always "code" codeFormat code fun r v => { r with code := v } : Json.Field _).needed]

/-- The refusal that an answer with a text is. -/
def ofAnswer (status : Nat) (text : String) : ClusterStatus :=
  match record.format.decode (Utf8.encode text) with
  | .ok s => s
  | .error _ => ⟨Http.statusText status, Text.quoted text, "Failed to parse error data", status⟩

/-- The wording of a refusal. -/
def text (s : ClusterStatus) : String := s.message ++ ": " ++ s.reason

/-- A refusal with all that it says. -/
def fullText (s : ClusterStatus) : String :=
  "ApiError: " ++ s.text ++ " (ErrorResponse \x7b status: " ++ Text.quoted s.status ++
    ", message: " ++ Text.quoted s.message ++ ", reason: " ++ Text.quoted s.reason ++
    ", code: " ++ toString s.code ++ " \x7d)"

/-- A refusal as a failure. -/
def failure (s : ClusterStatus) : Failure := .because s.fullText (.ofMessage s.text)

end ClusterStatus

/-- Bytes in Base64 as JSON; nothing stands for no bytes. -/
def bytesFormat : Json.Format (List UInt8) where
  write bs := .string (Base64.encode Base64.standard bs)
  read
    | _, .null => .ok []
    | _, .string t => t.value.bind fun s =>
      (Base64.decode s).mapError fun f => .refused f.message
    | _, d => .error (d.mismatch "a base64-encoded string")

/-- A text that is always the same, as JSON. -/
def constantFormat (expected : String) : Json.Format Unit where
  write _ := .string expected
  read
    | _, .string t => t.value.bind fun s =>
      if s = expected then .ok ()
      else .error (.refused
        ("invalid value: string " ++ Text.quoted s ++ ", expected " ++ expected))
    | _, d => .error (d.mismatch "a string")

/-- Secrets as JSON; only their data matter. -/
def secretRecord : Json.Record Secret where
  title := "Secret"
  blank := .empty
  fields := [
    .always "apiVersion" (constantFormat "v1") (fun _ => ()) fun s _ => s,
    .always "kind" (constantFormat "Secret") (fun _ => ()) fun s _ => s,
    .ifAny "data" bytesFormat.map (fun s => some s) fun _ v => v.getD .empty,
    member "immutable" .bool,
    member "metadata" metadata.looseFormat,
    member "stringData" (.map .string),
    member "type" .string]

namespace SecretName

/-- The namespace and the name on the two sides of a slash. -/
def parse? (s : String) : Option SecretName := do
  let (ns, name) ← Text.splitOnce? '/' s
  if ns.isEmpty || name.isEmpty then none else some ⟨ns, name⟩

/-- **Where a secret is** below the address of its cluster, if its name may stand there. -/
def path? (n : SecretName) : Except Http.UriFault String :=
  (Http.Uri.parse ("/api/v1/namespaces/" ++ n.namespaceName ++ "/secrets/" ++ n.name)).map
    Http.Uri.target

/-- The failure of a name that makes no address. -/
def unaddressable (f : Http.UriFault) : Failure :=
  let build := failedWith "failed to build request" f.message
  .because ("Failed to build request: " ++ build.message) build

/-- The failure of a message that did not get to the cluster or was not answered. -/
def serviceFailure (f : Failure) : Failure := .because ("ServiceError: " ++ f.message) f

/-- The failure of a message that was not answered. -/
def unanswered (problem : String) (causes : List String) : Failure :=
  serviceFailure ⟨"client error (" ++ problem ++ ")", causes⟩

/-- What came back for a secret. -/
def ofReception : Http.Reception → Except Failure Secret
  | .whole a =>
    match Utf8.fault? a.body with
    | some f => .error (.because ("UTF-8 Error: " ++ f.message) (.ofMessage f.message))
    | none =>
      if 400 ≤ a.status && a.status < 600 then
        .error (ClusterStatus.ofAnswer a.status (Utf8.decodeLossy a.body)).failure
      else
        (secretRecord.looseFormat.decode a.body).mapError fun f =>
          .because "Error deserializing response" (.ofMessage f.message)
  | .cut _ => .error ⟨"HyperError: error reading a body from connection",
      ["error reading a body from connection", "end of file before message length reached"]⟩
  | .dropped =>
    .error (unanswered "SendRequest" ["connection closed before message completed"])
  | .refused =>
    .error (unanswered "Connect" ["tcp connect error", "Connection refused (os error 111)"])

/-- Why no message can be sent to an address, if it says how to get there. -/
def unreachable? (u : Http.Uri) : Option Failure :=
  if !u.isAbsolute then some (unanswered "UserAbsoluteUriRequired" [])
  else match u.scheme with
    | some "http" => none
    | some "https" => none
    | scheme => some (unanswered "Connect" ["unsupported scheme " ++ scheme.getD ""])

/-- The question for a secret, if it can be asked. -/
def question (n : SecretName) (t : Target) : Except Failure Http.Dispatch := do
  let path ← n.path?.mapError unaddressable
  let authorization ← t.login.authorization.mapError serviceFailure
  match unreachable? t.server with
  | some f => throw f
  | none => return ⟨.get, t.server.below path, authorization.toList, .empty⟩

/-- **Fetches a secret** from the cluster that the environment says to talk to. -/
def fetch (n : SecretName) (env : String → Option String) : Errand (Except Failure Secret) :=
  let failed (f : Failure) : Failure :=
    .because ("get secret " ++ n.namespaceName ++ "/" ++ n.name) f
  (Target.find env).bind fun
    | .error f => .done (.error f.failure)
    | .ok target =>
      match n.question target with
      | .error f => .done (.error (failed f))
      | .ok d => .ask (.send d) fun r => .done ((ofReception r).mapError failed)

end SecretName

end GceMachines.Kubernetes
