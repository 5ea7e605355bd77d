import GceMachines.Crypto.Certificate
import GceMachines.Crypto.Pem
import GceMachines.Errand
import GceMachines.Kubernetes.Config
import GceMachines.Text.Moment

/-!
# The cluster that is talked to

The environment says in which files the configuration is. The cluster of its current context is
at an address; some certificates may vouch for it, and its user may have a name and a password, a
token, or somebody or some program to vouch for them. The first of these that the user has opens
the cluster.

* `ClusterFault`: why there is no cluster to talk to.
* `Login`: what opens a cluster.
* `Target`, `Target.find`: the cluster of the current context.
-/

namespace GceMachines.Kubernetes

/-! ### Materials -/

/-- The contents of a file, or a failure that names it. -/
def readFile {α : Type} (what path : String) (r : Except String α) : Except Failure α :=
  r.mapError (failedWith (what ++ " '" ++ Text.quoted path ++ "'"))

namespace Material

/-- **The bytes of a material.** What is given counts before what is in a file. -/
def load (m : Material) : Errand (Except Failure (List UInt8)) :=
  match m.data, m.path with
  | some data, _ => .done ((Base64.decodeGroups data).mapError fun f =>
      failedWith "failed to decode base64 data" f.signMessage)
  | none, some path => .ask (.file path) fun r => .done (readFile "failed to read file" path r)
  | none, none => .done (.error (.ofMessage "no base64 data or file"))

end Material

/-- The certificates that vouch for a cluster. -/
def Cluster.anchors (c : Cluster) : Errand (Except Failure (List (List UInt8))) :=
  if c.authority.isAbsent then .done (.ok [])
  else c.authority.load.bind fun
    | .error f => .done (.error (.because "failed to load certificate authority" f))
    | .ok bs => .done (match Pem.parseAll bs with
      | .ok parts => .ok ((parts.filter (·.label = "CERTIFICATE")).map Pem.contents)
      | .error f => .error (.because
          ("failed to parse PEM-encoded certificates: " ++ f.failure.message) f.failure))

/-! ### Logins -/

/-- **What opens a cluster.** -/
inductive Login
  | nothing
  | header (text : String)
  /-- A token that is put into a header only when a message is sent. -/
  | late (token : String)
  deriving DecidableEq, Repr

namespace Login

/-- The header of a token. -/
def bearer (token : String) : Login := .header (Http.bearer token)

/-- The header of a name and a password. -/
def basic (name password : String) : Login := .header (Http.basic name password)

/-- The header that is sent, if it can be one. Blanks at the end of a late token do not count. -/
def authorization : Login → Except Failure (Option String)
  | .nothing => .ok none
  | .header text => .ok (some text)
  | .late token =>
    let text := Http.bearer (String.ofList (token.toList.reverse.dropWhile Text.isBlank).reverse)
    if Http.isHeaderText text then .ok (some text)
    else .error (failedWith "invalid bearer token" "failed to parse header value")

end Login

/-- The failure of somebody who should vouch for a user. -/
def vouchFailure (problem : String) : Failure := .ofMessage ("failed exec auth: " ++ problem)

/-- What is said when a program cannot be run. -/
def noProgram : String := "No such file or directory"

namespace Provider

/-- A setting. -/
def setting? (p : Provider) (name : String) : Option String := p.settings.lookup name

/-- The failure of the program that should give a token. -/
def programFailure (p : Provider) : Failure :=
  vouchFailure (match p.setting? "cmd-path" with
    | some command => "Executing " ++ command ++ " failed: Os \x7b code: 2, kind: NotFound, " ++
        "message: " ++ Text.quoted noProgram ++ " \x7d"
    | none => "Enable oauth feature to use Google Application Credentials-based token source")

/-- How long a kept token has to be good for, in seconds. -/
def reserve : Int := 60

/-- The token that is kept in the settings, if it is still good. Otherwise a program should give
one, and no program can be run. -/
def keptToken (p : Provider) : Errand (Except Failure Login) :=
  match p.setting? "access-token", p.setting? "expiry" with
  | some token, some expiry =>
    match Text.Moment.parse expiry with
    | .error f => .done (.error (failedWith "malformed token expiration date" f.message))
    | .ok moment => .ask .unixTime fun now =>
        .done (if now + reserve < moment then .ok (.late token) else .error p.programFailure)
  | _, _ => .done (.error p.programFailure)

/-- **What a provider says to open a cluster.** -/
def login (p : Provider) : Errand (Except Failure Login) :=
  match p.name, p.setting? "id-token" with
  | "oidc", some token => .done (.ok (.bearer token))
  | "oidc", none => .done (.error (vouchFailure "No id-token for oidc Authentication provider"))
  | "gcp", some token => .done (.ok (.bearer token))
  | "gcp", none => p.keptToken
  | name, _ => .done (.error (vouchFailure
      ("Authentication with provider " ++ name ++ " not supported")))

end Provider

/-- What a program that vouches for users says, and no program can be run. -/
def Helper.login (h : Helper) : Except Failure Login :=
  match h.command with
  | none => .error (.ofMessage "command must be specified to use exec authentication plugin")
  | some _ => .error (failedWith "unable to run auth exec" (noProgram ++ " (os error 2)"))

namespace User

/-- What a user has of their own to open a cluster. -/
def ownLogin (u : User) : Errand (Except Failure Login) :=
  match u.name, u.password, u.token, u.tokenFile with
  | some name, some password, _, _ => .done (.ok (.basic name password))
  | _, _, some token, _ => .done (.ok (.bearer token))
  | _, _, none, some path => (Errand.readText path).bind fun r =>
      .done ((readFile "failed to read token file" path r).map .late)
  | _, _, none, none => .done (match u.helper with
      | some h => h.login
      | none => .ok .nothing)

/-- **What opens a cluster for a user.** -/
def login (u : User) : Errand (Except Failure Login) :=
  match u.provider with
  | some p => p.login
  | none => u.ownLogin

/-- The labels of keys. -/
def keyLabels : List String := ["PRIVATE KEY", "RSA PRIVATE KEY", "EC PRIVATE KEY"]

/-- What is missing for a user to show who they are, if they have something to show. -/
def identity (u : User) : Errand (Except Failure Unit) :=
  u.certificate.load.bind fun
    | .error _ => .done (.ok ())
    | .ok certificate => u.key.load.bind fun
      | .error _ => .done (.ok ())
      | .ok key =>
        let labels := ((Pem.frames key) ++ (Pem.frames certificate)).map fun f =>
          Utf8.decodeLossy f.label
        .done (if !labels.any (· ∈ keyLabels) then .error (.ofMessage
            "identity PEM is missing a private key: the key must be PKCS8 or RSA/PKCS1")
          else if "CERTIFICATE" ∉ labels then .error (.ofMessage
            "identity PEM is missing certificate")
          else .ok ())

/-- Whether a header can name those for whom a user acts. -/
def namesInHeader (u : User) : Bool :=
  u.actsFor.all fun s => s.toList.all fun c => c == '\t' || (0x20 ≤ c.toNat && c.toNat < 0x7F)

end User

/-! ### Faults -/

/-- **Why there is no cluster to talk to.** -/
inductive ClusterFault
  /-- The configuration names none. -/
  | config (f : ConfigFault)
  /-- Nothing opens it. -/
  | login (f : Failure)
  /-- The certificates or the identity of the user are unusable. -/
  | trust (f : Failure)
  /-- Those for whom the user acts cannot be named. -/
  | badHeader

/-- What is said when the program does not run inside a cluster either. -/
def outsideText (f : ConfigFault) : String :=
  "failed to infer config: in-cluster: (failed to read an incluster environment variable: " ++
    "environment variable not found), kubeconfig: (" ++ f.failure.message ++ ")"

/-- The failure of a program that finds no cluster. -/
def ClusterFault.failure : ClusterFault → Failure
  | .config f =>
    .because "kube client" <|
      .because ("Failed to infer configuration: " ++ outsideText f) <|
        .because (outsideText f) f.failure
  | .login f => .because "kube client" (.because ("auth error: " ++ f.message) f)
  | .trust f => .because "kube client" (.because ("rustls tls error: " ++ f.message) f)
  | .badHeader => .because "kube client" (failedWith "HttpError" "failed to parse header value")

/-! ### The cluster of the current context -/

/-- **A cluster that can be talked to**: where it is, and what opens it. -/
structure Target where
  server : Http.Uri
  login : Login
  deriving DecidableEq, Repr

namespace Target

/-- The files that the environment says the configuration is in. -/
def paths (env : String → Option String) : List String :=
  let listed := (env "KUBECONFIG").map fun s => (Text.splitOn ':' s).filter (!·.isEmpty)
  match listed with
  | some (p :: ps) => p :: ps
  | _ => ((env "HOME").map (· ++ "/.kube/config")).toList

/-- The configuration in a file. -/
def readConfig (path : String) : Errand (Except ConfigFault Config) :=
  (Errand.readText path).bind fun
    | .error problem => .done (.error (.file path problem))
    | .ok text => .done ((Config.ofText text).bind fun cs =>
        Config.mergeAll (cs.map (Config.fromFile path)))

/-- A configuration and those in files as one. -/
def readConfigs : List String → Config → Errand (Except ConfigFault Config)
  | [], c => .done (.ok c)
  | p :: ps, c => (readConfig p).bindOk fun next =>
      match c.merge next with
      | .ok c => readConfigs ps c
      | .error f => .done (.error f)

/-- The proxy of a cluster, or that of the environment. -/
def proxy? (env : String → Option String) (c : Cluster) : Option String :=
  let given (s : Option String) : Option String := s.filter (!·.isEmpty)
  ((given c.proxy).or (given (env "HTTP_PROXY"))).or (given (env "HTTPS_PROXY"))

/-- An identifier in a configuration, which messages call `what`. -/
def readUri (what s : String) : Except ConfigFault Http.Uri :=
  (Http.Uri.parse s).mapError fun f =>
    .unusable (failedWith ("failed to parse " ++ what ++ " url") f.message)

/-- Where a cluster is, and the certificates that vouch for it. A program that vouches for the
user may want to know the certificates before anything else. -/
def locate (env : String → Option String) (c : Cluster) (u : User) :
    Errand (Except ConfigFault (Http.Uri × List (List UInt8))) :=
  let anchors : Errand (Except ConfigFault (List (List UInt8))) :=
    c.anchors.bind fun r => .done (r.mapError .unusable)
  let told := if u.helper.any (·.wantsCluster) then anchors else .done (.ok [])
  told.bindOk fun _ =>
    match c.server with
    | none => .done (.error .noServer)
    | some server =>
      match readUri "cluster" server with
      | .error f => .done (.error f)
      | .ok uri => anchors.bindOk fun anchors =>
          match (proxy? env c).map (readUri "proxy") with
          | some (.error f) => .done (.error f)
          | _ => .done (.ok (uri, anchors))

/-- What is wrong with the certificates that vouch for a cluster. -/
def anchorFault? (anchors : List (List UInt8)) : Option Failure :=
  if anchors.all Certificate.isWellFormed then none
  else some (failedWith "failed to add a root certificate" "invalid peer certificate: BadEncoding")

/-- The current cluster of a configuration. -/
def ofConfig (env : String → Option String) (config : Config) :
    Errand (Except ClusterFault Target) :=
  match config.current with
  | .error f => .done (.error (.config f))
  | .ok (cluster, user) =>
    (locate env cluster user).bind fun
      | .error f => .done (.error (.config f))
      | .ok (server, anchors) => user.login.bind fun
        | .error f => .done (.error (.login f))
        | .ok login =>
          match anchorFault? anchors with
          | some f => .done (.error (.trust f))
          | none => user.identity.bind fun
            | .error f => .done (.error (.trust f))
            | .ok () =>
              .done (if user.namesInHeader then .ok ⟨server, login⟩ else .error .badHeader)

/-- **The cluster that the environment says to talk to.** -/
def find (env : String → Option String) : Errand (Except ClusterFault Target) :=
  match paths env with
  | [] => .done (.error (.config .noPath))
  | ps => (readConfigs ps .empty).bind fun
    | .error f => .done (.error (.config f))
    | .ok config => ofConfig env config

end Target

end GceMachines.Kubernetes
