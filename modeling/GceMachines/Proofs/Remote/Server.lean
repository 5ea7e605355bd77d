import GceMachines.Compute.InMemory
import GceMachines.Proofs.InMemory.Telling
import GceMachines.Proofs.Remote.Recording
import GceMachines.Proofs.Remote.Targets
import GceMachines.Proofs.RoundTrip
import GceMachines.Proofs.Url.Reading

/-!
# A server of the service in memory

A server at an address reads from each message which of the five calls it is for, puts the call to
the service in memory, and writes the answer as JSON or the refusal into an envelope. A message that
is for none of the calls goes to whatever else there is. What the messages of an access say is read
from them, and what the server answers is read by the access.

* `Server.request?`, `Server.answer`: reading a message and writing an answer.
* `Server.outside`: the server beside everything else.
* `request?_dispatch`: the message of a call is read as that call.
* `reply_answer`: the answer to a call is read as its reply.
-/

namespace GceMachines

variable {σ : Type} {endpoint token : String} {base : Url} {a : Access} {r : Request}

namespace Server

/-- The instance that contents are the text of. -/
def body? : Http.Content → Option Instance
  | .json text => (Instance.format.decode (Utf8.encode text)).toOption
  | _ => none

/-- The call for which a method is used on a path, with a query behind it. -/
def requestOn? (method : Http.Method) (path : List String) (query : String)
    (content : Http.Content) : Option Request :=
  match method, path with
  | .post, ["projects", project, "zones", zone, "instances"] =>
    (body? content).map (.insert project zone)
  | .get, ["projects", project, "zones", zone, "instances"] =>
    some (.list project zone ((Url.pairs query).lookup "pageToken"))
  | .get, ["projects", project, "zones", zone, "instances", name] =>
    some (.get ⟨project, zone, name⟩)
  | .delete, ["projects", project, "zones", zone, "instances", name] =>
    some (.delete ⟨project, zone, name⟩)
  | .get, ["projects", project, "zones", zone, "operations", name] =>
    some (.operation project zone name)
  | _, _ => none

/-- **The call that a message is for**, at the server of an address. -/
def request? (base : Url) (d : Http.Dispatch) : Option Request :=
  if d.uri.scheme = some base.scheme ∧ d.uri.authority = (Http.uriOf base).authority then do
    let rest ← Text.dropBeginning? base.stemText d.uri.target
    let path ← Url.segments? rest
    requestOn? d.method path (Url.queryOf rest) d.content
  else none

/-- The envelope of a refusal. -/
def envelope (status : Nat) (message : String) : Json :=
  .object [("error", .object [("code", .int status), ("message", .string message)])]

/-- **What is answered to a call.** -/
def answer (r : Request) : Except ServiceError r.Reply → Http.Answer
  | .ok v => ⟨200, none, Utf8.encode ((Access.replyFormat r).encode v)⟩
  | .error (.api status message) => ⟨status, none, Utf8.encode (envelope status message).compact⟩
  | .error e => ⟨500, none, Utf8.encode e.message⟩

theorem location_answer (r : Request) (result : Except ServiceError r.Reply) :
    (answer r result).location = none := by
  unfold answer
  split <;> rfl

/-- **The server of the service in memory** at an address, beside everything else. -/
def outside (base : Url) (rest : Program.Handler Inquiry.Answer σ) : Outside (σ × InMemory) where
  handler
    | .send d, (s, m) =>
      match request? base d with
      | none => (rest (.send d) s).beside m
      | some r =>
        match InMemory.answer r m with
        | (some reply, m) => .answered (.whole (answer r reply)) (s, m)
        | (none, m) => .stuck (s, m)
    | q, (s, m) => (rest q s).beside m
  interrupted _ := false

/-! ### What a server reads -/

theorem body?_content (body : Instance) :
    body? (.json (Instance.format.encode body)) = some body := by
  have hread : Instance.format.decode (Utf8.encode (Instance.format.encode body)) = .ok body :=
    roundTrips_of_faithful Instance.faithful body
  rw [body?, hread]
  rfl

end Server

namespace Access

/-- **An address that accesses are made of**: one of the web, without a query. -/
structure Accepted (endpoint : String) (base : Url) : Prop where
  parse : Url.parse endpoint = .ok base
  scheme : base.scheme = "http" ∨ base.scheme = "https"
  query : base.query.getD "" = ""

/-- **A call for things that have names**, each of which is a segment of its own. -/
def Named (r : Request) : Prop := ∀ n ∈ names r, Url.IsPlain n ∧ n ≠ ""

/-- Whether HTTP can carry the address of a call: it is not too long, and the name of its host can
stand in an identifier. -/
def fits (base : Url) (r : Request) : Bool :=
  Http.identifies (Http.bare (url ⟨base, ""⟩ r))

/-- The query of a call. -/
def query (r : Request) : String :=
  match r with
  | .list _ _ (some token) => Url.formEncode "pageToken" ++ "=" ++ Url.formEncode token
  | _ => ""

theorem query_append (u : Url) (more : List String) : (u.append more).query = u.query := by
  unfold Url.append
  split <;> rfl

theorem url_eq_append_query (h : a.base.query.getD "" = "") (r : Request) :
    ∃ q, a.url r = { a.base.append (segments r) with query := q } ∧ q.getD "" = query r := by
  have hblank : (a.base.append (segments r)).query.getD "" = "" := by rw [query_append, h]
  match r with
  | .list project zone (some token) =>
    refine ⟨some (query (.list project zone (some token))), ?_, rfl⟩
    simp only [url, Url.appendPair, hblank]
    rfl
  | .list project zone none => exact ⟨_, rfl, hblank⟩
  | .insert project zone body => exact ⟨_, rfl, hblank⟩
  | .delete m => exact ⟨_, rfl, hblank⟩
  | .get m => exact ⟨_, rfl, hblank⟩
  | .operation project zone name => exact ⟨_, rfl, hblank⟩

theorem requestOn?_segments (r : Request) :
    Server.requestOn? (method r) (segments r) (query r) (content r) = some r := by
  match r with
  | .insert project zone body =>
    show (Server.body? (.json (Instance.format.encode body))).map _ = _
    rw [Server.body?_content]
    rfl
  | .list project zone none => rfl
  | .list project zone (some page) =>
    show some (Request.list project zone ((Url.pairs (query _)).lookup "pageToken")) = _
    rw [query, Url.pairs_formEncode]
    rfl
  | .delete m => rfl
  | .get m => rfl
  | .operation project zone name => rfl

/-- **The message of a call is read as that call.** -/
theorem request?_dispatch (he : Accepted endpoint base) (hr : Named r) {msg : Http.Message}
    (hm : (Access.mk base token).message r = .ok msg) :
    Server.request? base msg.dispatch = some r := by
  obtain ⟨-, ss, hp⟩ := Url.web_of_parse he.parse he.scheme
  obtain ⟨q, hurl, hq⟩ := url_eq_append_query (a := ⟨base, token⟩) he.query r
  obtain ⟨rest, htarget, hpath, hquery⟩ :=
    Url.target_append_read (Url.settled_of_parse he.parse hp) hp (leading_projects _) hr q
  rw [← segments_eq_cons, ← hurl] at htarget
  rw [← segments_eq_cons] at hpath
  have hsame : (Http.uriOf ((Access.mk base token).url r)).scheme = some base.scheme ∧
      (Http.uriOf ((Access.mk base token).url r)).authority = (Http.uriOf base).authority := by
    rw [hurl]
    unfold Url.append
    split <;> exact ⟨rfl, rfl⟩
  have hrest : Text.dropBeginning? base.stemText
      (Http.uriOf ((Access.mk base token).url r)).target = some rest :=
    Text.dropBeginning?_eq_some_iff.mpr htarget.symm
  rw [dispatch_of_message hm, Server.request?, if_pos hsame]
  simp only [hrest, hpath, Option.bind_eq_bind, Option.bind_some]
  rw [hquery, hq]
  exact requestOn?_segments r

theorem message_of_fits (he : Accepted endpoint base) (hf : fits base r = true)
    (ht : Http.isHeaderText token = true) : ∃ msg, (Access.mk base token).message r = .ok msg := by
  obtain ⟨hhost, -⟩ := Url.web_of_parse he.parse he.scheme
  have hsame : ((Access.mk base token).url r).hasHost = true ∧
      ((Access.mk base token).url r).scheme = base.scheme := by
    obtain ⟨q, hurl⟩ := url_eq_append ⟨base, token⟩ r
    rw [hurl]
    unfold Url.append
    split <;> exact ⟨hhost, rfl⟩
  have hall : (Http.carries ((Access.mk base token).url r).scheme && fits base r) = true := by
    rw [hsame.2, hf, Bool.and_true]
    simpa [Http.carries] using he.scheme
  unfold message Http.Message.make
  rw [if_neg (by rw [hsame.1]; exact Bool.false_ne_true),
    if_neg (by rw [Option.all_some, ht]; exact Bool.false_ne_true)]
  exact ⟨_, if_pos hall⟩

/-! ### What is read of an answer -/

theorem roundTrips_reply (r : Request) : (replyFormat r).RoundTrips := by
  cases r with
  | insert project zone body => exact roundTrips_of_faithful Operation.faithful
  | delete m => exact roundTrips_of_faithful Operation.faithful
  | get m => exact roundTrips_of_faithful Instance.faithful
  | list project zone page => exact roundTrips_of_faithful InstanceList.faithful
  | operation project zone name => exact roundTrips_of_faithful Operation.faithful

theorem decode_envelope {status : Nat} (hs : status < 600) (message : String) :
    envelopeRecord.format.decode (Utf8.encode (Server.envelope status message).compact) =
      .ok message := by
  have hfits : Json.Number.Fits (status : Int) := Json.Number.fits_iff.mpr ⟨by omega, by omega⟩
  have hexact : (Server.envelope status message).Exact := ⟨⟨hfits, trivial, trivial⟩, trivial⟩
  unfold Json.Format.decode Json.decode
  rw [Json.parse_compact hexact]
  rfl

/-- **The answer to a call is read as its reply**, if a refusal has a status and a reason. -/
theorem reply_answer {result : Except ServiceError r.Reply} (h : InMemory.Told result) :
    reply r (.ok (Server.answer r result)) = result := by
  match result with
  | .ok v =>
    have hread := roundTrips_reply r v
    show Except.mapError _ ((replyFormat r).decode (Utf8.encode ((replyFormat r).encode v))) = _
    rw [hread]
    rfl
  | .error (.api status message) =>
    obtain ⟨hlow, hhigh, hne⟩ := h _ rfl
    have hfailed : Http.Answer.isSuccess
        ⟨status, none, Utf8.encode (Server.envelope status message).compact⟩ = false := by
      simp only [Http.Answer.isSuccess, Bool.and_eq_false_iff, decide_eq_false_iff_not]
      omega
    simp only [reply, Server.answer, hfailed, refusal, decode_envelope hhigh]
    rw [if_neg Bool.false_ne_true, if_neg (by simpa using hne)]
  | .error (.transport _) => exact (h _ rfl).elim
  | .error (.decode _) => exact (h _ rfl).elim
  | .error (.auth _) => exact (h _ rfl).elim

end Access

end GceMachines
