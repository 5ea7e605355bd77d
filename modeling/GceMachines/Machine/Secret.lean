import GceMachines.Machine.Error
import GceMachines.Text.Blank

/-!
# Secrets

A secret maps keys to bytes. It carries the credentials for the service under one of three keys, a
project for the credentials that do not name one, and the data a new machine starts with. Of
several credentials the first in a fixed order is used, and nothing else of the secret matters.

* `Secret.credentials?`: the credentials in use.
* `Secret.project`: the project they belong to.
* `Secret.userData`: the data for a new machine.
-/

namespace GceMachines

/-- **A secret**: bytes under keys. -/
abbrev Secret : Type := SortedMap String (List UInt8)

/-- The two kinds of credentials. -/
inductive CredentialKind
  /-- The key of a service account. -/
  | serviceAccount
  /-- A workload identity whose token is exchanged. -/
  | externalAccount
  deriving DecidableEq, Repr

/-- The keys of a secret that carry credentials. -/
inductive CredentialKey
  | serviceAccountJson
  | serviceAccountFile
  | credentialsConfig
  deriving DecidableEq, Repr

namespace CredentialKey

/-- The key as it stands in a secret. -/
def text : CredentialKey → String
  | .serviceAccountJson => "serviceAccountJSON"
  | .serviceAccountFile => "serviceaccount.json"
  | .credentialsConfig => "credentialsConfig"

/-- The kind of credentials under a key. -/
def kind : CredentialKey → CredentialKind
  | .serviceAccountJson => .serviceAccount
  | .serviceAccountFile => .serviceAccount
  | .credentialsConfig => .externalAccount

/-- The keys, the one that counts most first. -/
def order : List CredentialKey := [.serviceAccountJson, .serviceAccountFile, .credentialsConfig]

/-- The keys as messages list them. -/
def listing : String := "serviceAccountJSON, serviceaccount.json or credentialsConfig"

end CredentialKey

/-- Credentials and the key they stand under. -/
structure Credentials where
  key : CredentialKey
  document : List UInt8
  deriving DecidableEq, Repr

namespace Secret

/-- The key of the project that an external account works in. -/
def projectKey : String := "projectID"

/-- The key of the data for a new machine. -/
def userDataKey : String := "userData"

/-- **The credentials in use.** -/
def credentials? (s : Secret) : Option Credentials :=
  CredentialKey.order.findSome? fun k => (s.get? k.text).map fun document => ⟨k, document⟩

/-- The project named in the key of a service account, as JSON. -/
def projectRecord : Json.Record (Option String) where
  title := "struct ProjectOnly"
  blank := none
  fields := [Json.Field.ifAny "project_id" .string id fun _ v => v]

/-- The project that credentials name, empty when they name none. -/
def namedProject (s : Secret) (c : Credentials) : Except MachineError String :=
  match c.key.kind with
  | .serviceAccount =>
    match projectRecord.format.decode c.document with
    | .ok p => .ok (p.getD "")
    | .error f => .error (.credentials (c.key.text ++ ": " ++ f.message))
  | .externalAccount =>
    .ok (((s.get? projectKey).map fun bs => Text.trim (Utf8.decodeLossy bs)).getD "")

/-- **The project that the credentials in use belong to.** -/
def project (s : Secret) : Except MachineError String :=
  match s.credentials? with
  | none => .error (.credentials ("secret needs one of " ++ CredentialKey.listing))
  | some c =>
    (s.namedProject c).bind fun p =>
      if p.isEmpty then
        .error (.credentials ("no project id found for credentials in " ++ c.key.text))
      else .ok p

/-- **The data for a new machine**, empty when there is none. -/
def userData (s : Secret) : String := ((s.get? userDataKey).map Utf8.decodeLossy).getD ""

end Secret

end GceMachines
