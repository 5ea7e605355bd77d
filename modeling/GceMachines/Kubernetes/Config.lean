import GceMachines.Failure
import GceMachines.Yaml.Shape

/-!
# Kubernetes configurations

A configuration names clusters, users and contexts, which join one of each, and says which context
is the current one. Several documents may make up one configuration, in one file or in several: of
two entries with one name the earlier one counts.

* `Config`, `Config.shape`: a configuration and how it is read.
* `Config.merge`: two configurations as one.
* `Config.current`: the cluster and the user of the current context.
-/

namespace GceMachines.Kubernetes

/-! ### Parts of a configuration -/

/-- Bytes that are given in Base64 or are in a file. -/
structure Material where
  data : Option String
  path : Option String
  deriving DecidableEq, Repr

namespace Material

/-- No bytes. -/
def absent : Material := ⟨none, none⟩

/-- Whether nothing is given. -/
def isAbsent (m : Material) : Bool := m.data.isNone && m.path.isNone

end Material

/-- **A cluster**: where it is and by which certificates it is known. -/
structure Cluster where
  server : Option String
  authority : Material
  proxy : Option String
  deriving DecidableEq, Repr

/-- Someone who vouches for users, and what they are told. -/
structure Provider where
  name : String
  settings : List (String × String)
  deriving DecidableEq, Repr

/-- A program that vouches for users. -/
structure Helper where
  command : Option String
  /-- Whether it is told of the cluster. -/
  wantsCluster : Bool
  deriving DecidableEq, Repr

/-- **A user**: all that may open a cluster. -/
structure User where
  name : Option String
  password : Option String
  token : Option String
  tokenFile : Option String
  certificate : Material
  key : Material
  /-- Whom the user acts for. -/
  actsFor : List String
  provider : Option Provider
  helper : Option Helper
  deriving DecidableEq, Repr

/-- **A context**: the names of a cluster and a user. -/
structure Context where
  cluster : String
  user : String
  deriving DecidableEq, Repr

/-- An entry of a list: its name, and what it stands for. -/
structure Named (α : Type) where
  name : String
  value : Option α
  deriving DecidableEq, Repr

/-- **A configuration.** -/
structure Config where
  clusters : List (Named Cluster)
  users : List (Named User)
  contexts : List (Named Context)
  /-- The name of the current context. -/
  context : Option String
  kind : Option String
  version : Option String
  deriving DecidableEq, Repr

/-! ### Shapes -/

open Yaml (Shape)

/-- What others may have added: any JSON value under a name. -/
def extension : Shape Unit :=
  .record "NamedExtension" [
    .required "name" .text fun r _ => r,
    .required "extension" .json fun r _ => r] ()

/-- Additions of others. -/
def extensions (ρ : Type) : Shape.Field ρ := .checked "extensions" (.list extension)

/-- Entries with a name, which messages call by a title. -/
def Named.shape {α : Type} (title field : String) (f : Shape α) : Shape (Named α) :=
  .record title [
    .required "name" .text fun r v => { r with name := v },
    .ifAny field f fun r v => { r with value := v }] ⟨"", none⟩

/-- How a cluster is read. -/
def Cluster.shape : Shape Cluster :=
  .record "Cluster" [
    .ifAny "server" .text fun r v => { r with server := v },
    .checked "insecure-skip-tls-verify" .bool,
    .ifAny "certificate-authority" .text
      fun r v => { r with authority := { r.authority with path := v } },
    .ifAny "certificate-authority-data" .text
      fun r v => { r with authority := { r.authority with data := v } },
    .ifAny "proxy-url" .text fun r v => { r with proxy := v },
    .checked "tls-server-name" .text,
    extensions Cluster] ⟨none, .absent, none⟩

/-- How a provider is read. -/
def Provider.shape : Shape Provider :=
  .record "AuthProviderConfig" [
    .required "name" .text fun r v => { r with name := v },
    .optional "config" .texts fun r v => { r with settings := v }] ⟨"", []⟩

/-- How a program that vouches for users is read. -/
def Helper.shape : Shape Helper :=
  .record "ExecConfig" [
    .checked "apiVersion" .text,
    .ifAny "command" .text fun r v => { r with command := v },
    .checked "args" (.list .text),
    .checked "env" (.list .texts),
    .checked "interactiveMode" (.word ["Never", "IfAvailable", "Always"]),
    .optional "provideClusterInfo" .bool fun r v => { r with wantsCluster := v }] ⟨none, false⟩

/-- A user of whom nothing is known. -/
def User.blank : User := ⟨none, none, none, none, .absent, .absent, [], none, none⟩

/-- How a user is read. -/
def User.shape : Shape User :=
  .record "AuthInfo" [
    .ifAny "username" .text fun r v => { r with name := v },
    .ifAny "password" .text fun r v => { r with password := v },
    .ifAny "token" .text fun r v => { r with token := v },
    .ifAny "tokenFile" .text fun r v => { r with tokenFile := v },
    .ifAny "client-certificate" .text
      fun r v => { r with certificate := { r.certificate with path := v } },
    .ifAny "client-certificate-data" .text
      fun r v => { r with certificate := { r.certificate with data := v } },
    .ifAny "client-key" .text fun r v => { r with key := { r.key with path := v } },
    .ifAny "client-key-data" .text fun r v => { r with key := { r.key with data := v } },
    .ifAny "as" .text fun r v => { r with actsFor := r.actsFor ++ v.toList },
    .ifAny "as-groups" (.list .text) fun r v => { r with actsFor := r.actsFor ++ v.getD [] },
    .ifAny "auth-provider" Provider.shape fun r v => { r with provider := v },
    .ifAny "exec" Helper.shape fun r v => { r with helper := v }] .blank

/-- How a context is read. -/
def Context.shape : Shape Context :=
  .record "Context" [
    .required "cluster" .text fun r v => { r with cluster := v },
    .required "user" .text fun r v => { r with user := v },
    .checked "namespace" .text,
    extensions Context] ⟨"", ""⟩

/-- How somebody's preferences are read. -/
def preferences : Shape Unit :=
  .record "Preferences" [.checked "colors" .bool, extensions Unit] ()

namespace Config

/-- The configuration that says nothing. -/
def empty : Config := ⟨[], [], [], none, none, none⟩

/-- **How a configuration is read.** -/
def shape : Shape Config :=
  .record "Kubeconfig" [
    .checked "preferences" preferences,
    .optional "clusters" (.list (Named.shape "NamedCluster" "cluster" Cluster.shape))
      fun r v => { r with clusters := v },
    .optional "users" (.list (Named.shape "NamedAuthInfo" "user" User.shape))
      fun r v => { r with users := v },
    .optional "contexts" (.list (Named.shape "NamedContext" "context" Context.shape))
      fun r v => { r with contexts := v },
    .ifAny "current-context" .text fun r v => { r with context := v },
    extensions Config,
    .ifAny "kind" .text fun r v => { r with kind := v },
    .ifAny "apiVersion" .text fun r v => { r with version := v }] empty

end Config

/-! ### Faults -/

/-- **Why a configuration names no cluster.** -/
inductive ConfigFault
  /-- It is not known where the configuration is. -/
  | noPath
  | file (path problem : String)
  | unreadable (f : Yaml.Refusal)
  | misshapen (f : Yaml.Misfit)
  | otherKind
  | otherVersion
  | noContext
  | unknownContext (name : String)
  | unknownCluster (name : String)
  | unknownUser (name : String)
  | noServer
  /-- What leads to the cluster cannot be used. -/
  | unusable (f : Failure)

/-- Something that fails with the cause behind its message. -/
def failedWith (what cause : String) : Failure := .because (what ++ ": " ++ cause) (.ofMessage cause)

/-- A configuration fault as a failure. -/
def ConfigFault.failure : ConfigFault → Failure
  | .noPath => .ofMessage "failed to find the path of kubeconfig"
  | .file path problem =>
    failedWith ("failed to read kubeconfig from '" ++ Text.quoted path ++ "'") problem
  | .unreadable f => failedWith "failed to parse kubeconfig YAML" f.message
  | .misshapen f => failedWith "the structure of the parsed kubeconfig is invalid" f.message
  | .otherKind => .ofMessage "kubeconfigs with mismatching kind cannot be merged"
  | .otherVersion => .ofMessage "kubeconfigs with mismatching api version cannot be merged"
  | .noContext => .ofMessage "failed to determine current context"
  | .unknownContext name => .ofMessage ("failed to load current context: " ++ name)
  | .unknownCluster name => .ofMessage ("failed to load the cluster of context: " ++ name)
  | .unknownUser name => .ofMessage ("failed to find named user: " ++ name)
  | .noServer => .ofMessage "cluster url is missing on selected cluster"
  | .unusable f => f

namespace Config

/-! ### Several configurations -/

/-- Entries followed by those with other names. -/
def append {α : Type} (earlier later : List (Named α)) : List (Named α) :=
  earlier ++ later.filter fun e => earlier.all (·.name ≠ e.name)

/-- Whether two marks may belong to one configuration. -/
def agree (a b : Option String) : Bool := a.isNone || b.isNone || a == b

/-- **Two configurations as one.** Of the two the earlier one counts. -/
def merge (a b : Config) : Except ConfigFault Config :=
  if !agree a.kind b.kind then .error .otherKind
  else if !agree a.version b.version then .error .otherVersion
  else .ok ⟨append a.clusters b.clusters, append a.users b.users, append a.contexts b.contexts,
    a.context.or b.context, a.kind.or b.kind, a.version.or b.version⟩

/-- Several configurations as one. -/
def mergeAll : List Config → Except ConfigFault Config
  | [] => .ok empty
  | c :: cs => cs.foldlM merge c

theorem merge_empty (c : Config) : merge empty c = .ok c := by
  cases c
  simp [merge, empty, agree, append, List.filter_eq_self.2]

/-- The configurations of the documents of a text. -/
def ofText (text : String) : Except ConfigFault (List Config) :=
  (Yaml.Value.allOfText text).mapM fun v =>
    (v.mapError .unreadable).bind fun v => (shape v).mapError .misshapen

/-- What an entry of a name stands for. -/
def lookup {α : Type} (entries : List (Named α)) (name : String) : Option α :=
  (entries.find? (·.name = name)).bind Named.value

/-- **The cluster and the user of the current context.** -/
def current (c : Config) : Except ConfigFault (Cluster × User) := do
  let name ← c.context.elim (throw .noContext) pure
  let context ← (lookup c.contexts name).elim (throw (.unknownContext name)) pure
  let cluster ← (lookup c.clusters context.cluster).elim
    (throw (.unknownCluster context.cluster)) pure
  let user ← (lookup c.users context.user).elim (throw (.unknownUser context.user)) pure
  return (cluster, user)

end Config

/-! ### Paths -/

/-- A path that a file names, where paths of files begin at the directory of that file. -/
def fromFile (file path : String) : String :=
  if path.toList.head? = some '/' then path
  else
    let directory := (file.toList.reverse.dropWhile (· ≠ '/')).reverse
    String.ofList directory ++ path

/-- A material whose file is named by another file. -/
def Material.fromFile (file : String) (m : Material) : Material :=
  { m with path := m.path.map (Kubernetes.fromFile file) }

/-- A configuration that is in a file. -/
def Config.fromFile (file : String) (c : Config) : Config :=
  let cluster (x : Cluster) : Cluster := { x with authority := x.authority.fromFile file }
  let user (x : User) : User :=
    { x with
      tokenFile := x.tokenFile.map (Kubernetes.fromFile file)
      certificate := x.certificate.fromFile file
      key := x.key.fromFile file }
  { c with
    clusters := c.clusters.map fun e => { e with value := e.value.map cluster }
    users := c.users.map fun e => { e with value := e.value.map user } }

end GceMachines.Kubernetes
