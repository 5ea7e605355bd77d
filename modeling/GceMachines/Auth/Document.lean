import GceMachines.Json.Record

/-!
# Credential documents

The JSON documents that credentials consist of: the key of a service account, and the
configuration of a workload identity whose token is exchanged.

* `ServiceAccountKey`, `ExternalAccount`: the two documents with their records.
-/

namespace GceMachines

open Json

/-- **The key of a service account.** -/
structure ServiceAccountKey where
  clientEmail : String
  privateKey : String
  tokenUri : String
  projectId : Option String
  deriving DecidableEq, Repr

namespace ServiceAccountKey

/-- Where tokens are fetched if a key does not say so. -/
def defaultTokenUri : String := "https://oauth2.googleapis.com/token"

/-- Service account keys as JSON. -/
def record : Record ServiceAccountKey where
  title := "struct ServiceAccountKey"
  blank := ⟨"", "", defaultTokenUri, none⟩
  fields := [
    (.always "client_email" .string clientEmail fun r v => { r with clientEmail := v } :
      Json.Field _).needed,
    (.always "private_key" .string privateKey fun r v => { r with privateKey := v } :
      Json.Field _).needed,
    .always "token_uri" .string tokenUri fun r v => { r with tokenUri := v },
    .always "project_id" (.option .string) projectId fun r v => { r with projectId := v }]

end ServiceAccountKey

/-- How the subject token stands in its file. -/
structure SourceFormat where
  /-- `json` for a member of a JSON object; everything else means the whole text. -/
  type : String
  subjectTokenFieldName : Option String
  deriving DecidableEq, Repr

/-- Source formats as JSON. -/
def SourceFormat.record : Record SourceFormat where
  title := "struct SourceFormat"
  blank := ⟨"", none⟩
  fields := [
    .always "type" .string type fun r v => { r with type := v },
    .always "subject_token_field_name" (.option .string) subjectTokenFieldName fun r v =>
      { r with subjectTokenFieldName := v }]

/-- Where the subject token comes from. -/
structure CredentialSource where
  file : Option String
  format : Option SourceFormat
  deriving DecidableEq, Repr

/-- Sources as JSON. A list has to say whether there is a file. -/
def CredentialSource.record : Record CredentialSource where
  title := "struct CredentialSource"
  blank := ⟨none, none⟩
  fields := [
    (.always "file" (.option .string) file fun r v => { r with file := v } :
      Json.Field _).neededInList,
    .always "format" (.option SourceFormat.record.format) format fun r v => { r with format := v }]

/-- **A workload identity** whose token is exchanged for one of the service. -/
structure ExternalAccount where
  audience : String
  subjectTokenType : String
  tokenUrl : String
  impersonationUrl : Option String
  source : CredentialSource
  deriving DecidableEq, Repr

/-- Workload identities as JSON. -/
def ExternalAccount.record : Record ExternalAccount where
  title := "struct ExternalAccount"
  blank := ⟨"", "", "", none, ⟨none, none⟩⟩
  fields := [
    (.always "audience" .string audience fun r v => { r with audience := v } : Json.Field _).needed,
    (.always "subject_token_type" .string subjectTokenType fun r v =>
      { r with subjectTokenType := v } : Json.Field _).needed,
    (.always "token_url" .string tokenUrl fun r v =>
      { r with tokenUrl := v } : Json.Field _).needed,
    .always "service_account_impersonation_url" (.option .string) impersonationUrl fun r v =>
      { r with impersonationUrl := v },
    (.always "credential_source" CredentialSource.record.format source fun r v =>
      { r with source := v } : Json.Field _).needed]

end GceMachines
