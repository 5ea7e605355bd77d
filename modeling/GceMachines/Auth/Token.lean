import GceMachines.Auth.Assertion
import GceMachines.Compute.Service
import GceMachines.Errand
import GceMachines.Machine.Secret

/-!
# Access tokens

The credentials of a secret are exchanged for an access token. A service account shows a signed
assertion. A workload identity shows the token of its subject, which stands in a file; the token
that it gets for it may be exchanged once more for one of a service account. Whatever fails on the
way, no further exchange is tried.

* `TokenFault`: why there is no token.
* `Token.fetch`: the errand that fetches one.
-/

namespace GceMachines

/-- The exchanges in which a token is got. -/
inductive Exchange
  | assertion
  | subjectToken
  | impersonation
  deriving DecidableEq, Repr

/-- How messages call an exchange. -/
def Exchange.name : Exchange → String
  | .assertion => "token"
  | .subjectToken => "sts"
  | .impersonation => "impersonation"

/-- **Why there is no access token.** -/
inductive TokenFault
  | noCredentials
  | unreadable (key : CredentialKey) (f : Json.Fault)
  | unsigned (f : Assertion.Fault)
  | noSource
  | sourceFile (path problem : String)
  | noFieldName
  | sourceJson (f : Json.Fault)
  | noField (name : String)
  /-- An exchange had no answer. -/
  | unanswered (what : Exchange) (f : Http.Failure)
  | refused (what : Exchange) (status : Nat) (text : String)
  | answer (what : Exchange) (f : Json.Fault)
  deriving DecidableEq, Repr

/-- The wording of a failure. -/
def TokenFault.message : TokenFault → String
  | .noCredentials => "secret carries no credentials"
  | .unreadable key f => key.text ++ ": " ++ f.message
  | .unsigned f => f.message
  | .noSource => "credential_source.file missing"
  | .sourceFile path problem => "read subject token " ++ path ++ ": " ++ problem
  | .noFieldName => "subject_token_field_name missing"
  | .sourceJson f => "subject token json: " ++ f.message
  | .noField name => "subject token field " ++ name ++ " missing"
  | .unanswered what f => what.name ++ " endpoint: " ++ f.message
  | .refused what status text =>
    what.name ++ " endpoint returned " ++ toString status ++ ": " ++ text
  | .answer what f => what.name ++ " response: " ++ f.message

/-- The failure as one of the service. -/
def TokenFault.toServiceError (f : TokenFault) : ServiceError := .auth f.message

namespace Token

/-- An errand that fetches a token, or a part of one. -/
abbrev Fetch (α : Type) : Type := Errand (Except TokenFault α)

/-- Ends with a failure. -/
def fail {α : Type} (f : TokenFault) : Fetch α := .done (.error f)

/-- A token as a member of an answer. -/
def answerRecord (title field : String) : Json.Record String where
  title
  blank := ""
  fields := [(Json.Field.always field .string id fun _ v => v).needed]

/-- How the answer to an exchange holds the token. -/
def answerFormat : Exchange → Json.Format String
  | .impersonation => (answerRecord "struct ImpersonationResponse" "accessToken").format
  | _ => (answerRecord "struct TokenResponse" "access_token").format

/-- The token that an answer holds. -/
def ofAnswer (what : Exchange) : Except Http.Failure Http.Answer → Except TokenFault String
  | .error f => .error (.unanswered what f)
  | .ok a =>
    if a.isSuccess then
      ((answerFormat what).decode a.body).mapError (TokenFault.answer what)
    else .error (.refused what a.status a.text)

/-- One exchange. -/
def exchange (what : Exchange) (address : String) (token : Option String)
    (content : Http.Content) : Fetch String :=
  (Errand.send (Http.Message.post address token content)).bind fun r => .done (ofAnswer what r)

/-! ### Service accounts -/

/-- The form in which an assertion is shown. -/
def assertionForm (assertion : String) : List (String × String) := [
  ("grant_type", "urn:ietf:params:oauth:grant-type:jwt-bearer"), ("assertion", assertion)]

/-- **A token for a service account.** -/
def ofServiceAccount (key : ServiceAccountKey) : Fetch String :=
  .ask .unixTime fun now =>
    match Assertion.sign key now with
    | .error f => fail (.unsigned f)
    | .ok assertion => exchange .assertion key.tokenUri none (.form (assertionForm assertion))

/-! ### Workload identities -/

/-- The token of the subject in the text of its file. -/
def subjectOf (format : Option SourceFormat) (text : String) : Except TokenFault String :=
  match format.filter fun f => f.type = "json" with
  | none => .ok (Text.trim text)
  | some f =>
    match f.subjectTokenFieldName with
    | none => .error .noFieldName
    | some name =>
      match Json.Format.any.decode (Utf8.encode text) with
      | .error f => .error (.sourceJson f)
      | .ok v => match (v.member? name).bind Json.string? with
        | some t => .ok t
        | none => .error (.noField name)

/-- The token of the subject. -/
def subjectToken (source : CredentialSource) : Fetch String :=
  match source.file with
  | none => fail .noSource
  | some path =>
    (Errand.readText path).bind fun
      | .error problem => fail (.sourceFile path problem)
      | .ok text => .done (subjectOf source.format text)

/-- The form in which the token of a subject is shown. -/
def subjectForm (account : ExternalAccount) (subject : String) : List (String × String) := [
  ("grant_type", "urn:ietf:params:oauth:grant-type:token-exchange"),
  ("audience", account.audience),
  ("scope", accessScope),
  ("requested_token_type", "urn:ietf:params:oauth:token-type:access_token"),
  ("subject_token", subject),
  ("subject_token_type", account.subjectTokenType)]

/-- What is asked for when the token of a service account is wanted. -/
def impersonationBody : Json := .object [
  ("lifetime", .string (toString Assertion.lifetimeSecs ++ "s")),
  ("scope", .array [.string accessScope])]

/-- **A token for a workload identity.** -/
def ofExternalAccount (account : ExternalAccount) : Fetch String :=
  (subjectToken account.source).bindOk fun subject =>
    (exchange .subjectToken account.tokenUrl none (.form (subjectForm account subject))).bindOk
      fun token =>
        match account.impersonationUrl with
        | none => .done (.ok token)
        | some address =>
          exchange .impersonation address (some token) (.json impersonationBody.compact)

/-- **A token for the credentials of a secret.** -/
def fetch (secret : Secret) : Fetch String :=
  match secret.credentials? with
  | none => fail .noCredentials
  | some c =>
    match c.key.kind with
    | .serviceAccount =>
      match ServiceAccountKey.record.format.decode c.document with
      | .error f => fail (.unreadable c.key f)
      | .ok key => ofServiceAccount key
    | .externalAccount =>
      match ExternalAccount.record.format.decode c.document with
      | .error f => fail (.unreadable c.key f)
      | .ok account => ofExternalAccount account

end Token

end GceMachines
