import GceMachines.Http.Uri
import GceMachines.Text.Base64
import GceMachines.Text.Blank
import GceMachines.Url.Parser

/-!
# Messages over HTTP

A message goes to an address, perhaps with what opens it and with contents. An address may be
opened by a token, and also by the name and the password of a user that it names itself; these are
taken out of it and put into a header. Some messages cannot be formed at all, and are never sent:
their address has no host, is no web address or cannot identify a resource, or their token holds
characters that no header may hold.

* `userHeader?`, `bare`: what an address says of its user, and the address without it.
* `Message`, `Message.make`: messages that can be sent, and how they are made.
* `Dispatch`: what is sent.
* `Reception`: what comes back.
* `Failure`: why there is no answer.
-/

namespace GceMachines.Http

/-- What a message asks for. -/
inductive Method
  | get
  | post
  | delete
  deriving DecidableEq, Repr

/-- The name of a method. -/
def Method.name : Method → String
  | .get => "GET"
  | .post => "POST"
  | .delete => "DELETE"

/-- The contents of a message. -/
inductive Content
  | empty
  /-- The text of a JSON value. -/
  | json (text : String)
  /-- The pairs of a form. -/
  | form (pairs : List (String × String))
  deriving DecidableEq, Repr

namespace Content

/-- The kind of contents, as a header says it. -/
def type? : Content → Option String
  | .empty => none
  | .json _ => some "application/json"
  | .form _ => some "application/x-www-form-urlencoded"

/-- The contents as they are sent. -/
def text : Content → String
  | .empty => ""
  | .json text => text
  | .form pairs =>
    "&".intercalate (pairs.map fun (k, v) => Url.formEncode k ++ "=" ++ Url.formEncode v)

end Content

/-! ### What opens an address -/

/-- The header of a token. -/
def bearer (token : String) : String := "Bearer " ++ token

/-- The header of a name and a password. -/
def basic (name password : String) : String :=
  "Basic " ++ Base64.encode Base64.standard (Utf8.encode (name ++ ":" ++ password))

/-- **The header of the user that an address names.** A name that cannot be read is none, and a
password that cannot be read does not count. -/
def userHeader? (u : Url) : Option String := do
  let (name, rest) := Url.cutAt (· == ':') (← u.user).toList
  let name ← Url.percentText? (String.ofList name)
  let password := if rest.isEmpty then none else Url.percentText? (String.ofList rest.tail)
  if name.isEmpty && password.isNone then none else some (basic name (password.getD ""))

/-- **An address without the user** that is in the header. -/
def bare (u : Url) : Url := if (userHeader? u).isSome then { u with user := none } else u

/-! ### Messages -/

/-- **A message.** -/
structure Message where
  method : Method
  url : Url
  /-- The headers that open the address. -/
  authorization : List String
  content : Content
  deriving DecidableEq, Repr

/-- Why a message has no answer. -/
inductive Failure
  /-- It cannot be formed. -/
  | unusable (url : Option Url)
  /-- Nothing came back. -/
  | unanswered (url : Url)
  /-- The answer broke off. -/
  | broken
  /-- It was redirected too often. -/
  | endless (url : Url)
  deriving DecidableEq, Repr

/-- The wording of a failure. -/
def Failure.message : Failure → String
  | .unusable none => "builder error"
  | .unusable (some url) => "builder error for url (" ++ url.text ++ ")"
  | .unanswered url => "error sending request for url (" ++ url.text ++ ")"
  | .broken => "error decoding response body"
  | .endless url => "error following redirect for url (" ++ url.text ++ ")"

/-- Whether a header may hold a text: control characters are only tabs. -/
def isHeaderText (s : String) : Bool :=
  s.toList.all fun c => c == '\t' || (0x20 ≤ c.toNat && c.toNat != 0x7F)

/-- Whether an address of the web identifies a resource: it is not too long, and its host is named
with characters that an identifier may hold. All other parts of an address are encoded. -/
def identifies (u : Url) : Bool :=
  u.text.utf8ByteSize ≤ Uri.maxLength &&
    match u.host with
    | some (.domain name) => name.toList.all Uri.isNameChar
    | _ => true

/-- The schemes of addresses that messages go to. -/
def carries (scheme : String) : Bool := scheme = "http" || scheme = "https"

namespace Message

/-- **A message that can be sent.** The user that its address names comes before the token. -/
def make (method : Method) (url : Url) (token : Option String) (content : Content) :
    Except Failure Message :=
  if !url.hasHost then .error (.unusable (some url))
  else if !token.all isHeaderText then .error (.unusable none)
  else if carries url.scheme && identifies (bare url) then
    .ok ⟨method, bare url, (userHeader? url).toList ++ (token.map bearer).toList, content⟩
  else .error (.unusable (some (bare url)))

/-- A message to post to an address that is given as a text. -/
def post (address : String) (token : Option String) (content : Content) :
    Except Failure Message :=
  match Url.parse address with
  | .error _ => .error (.unusable none)
  | .ok url => make .post url token content

end Message

/-- **What is sent**: to which resource, with which contents, and what opens the resource. -/
structure Dispatch where
  method : Method
  uri : Uri
  authorization : List String
  content : Content
  deriving DecidableEq, Repr

/-- The identifier of the resource at an address. -/
def uriOf (u : Url) : Uri where
  scheme := some u.scheme
  authority :=
    ((u.host.map Url.Host.text).getD "") ++ (u.port.map fun p => ":" ++ toString p).getD ""
  target := u.target

/-- What a message looks like when it is sent. -/
def Message.dispatch (m : Message) : Dispatch :=
  ⟨m.method, uriOf m.url, m.authorization, m.content⟩

theorem uriOf_bare (u : Url) : uriOf (bare u) = uriOf u := by
  unfold bare
  split <;> rfl

theorem Message.dispatch_of_make {method : Method} {url : Url} {token : Option String}
    {content : Content} {m : Message} (h : make method url token content = .ok m) :
    m.dispatch = ⟨method, uriOf url, (userHeader? url).toList ++ (token.map bearer).toList,
      content⟩ := by
  unfold make at h
  split at h
  · cases h
  · split at h
    · cases h
    · split at h
      · cases h
        rw [dispatch, uriOf_bare]
      · cases h

/-- **An answer.** -/
structure Answer where
  status : Nat
  /-- Where the server says that something else is. -/
  location : Option String
  body : List UInt8
  deriving DecidableEq, Repr

namespace Answer

/-- Whether the server did what it was asked for. -/
def isSuccess (a : Answer) : Bool := 200 ≤ a.status && a.status < 300

/-- The body as a text without blanks around it. -/
def text (a : Answer) : String := Text.trim (Utf8.decodeLossy a.body)

end Answer

/-- **What comes back** for a message that was sent. -/
inductive Reception
  | whole (a : Answer)
  /-- An answer whose body broke off. -/
  | cut (a : Answer)
  /-- The server ended the connection without an answer. -/
  | dropped
  /-- No server is at the address. -/
  | refused
  deriving DecidableEq, Repr

/-- The answer of which the head came back. -/
def Reception.head? : Reception → Option Answer
  | .whole a | .cut a => some a
  | .dropped | .refused => none

/-- The answer to a message, if a whole one came back. -/
def Reception.answer (m : Message) : Reception → Except Failure Answer
  | .whole a => .ok a
  | .cut _ => .error .broken
  | .dropped => .error (.unanswered m.url)
  | .refused => .error (.unanswered m.url)

end GceMachines.Http
