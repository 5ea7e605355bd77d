import GceMachines.Http.Message
import GceMachines.Url.Join

/-!
# Redirected messages

An answer may say that what was asked for is elsewhere. The message then goes there instead, and
the answer from there counts. Some of these answers want the same message once more; the others
only want a look at the other place, without contents. What opens the address of a message is not
told to another server.

* `Message.elsewhere?`: where an answer redirects a message to.
* `Message.redirected`: the message that goes there.
* `Message.next?`: what is sent after something came back.
-/

namespace GceMachines.Http

/-- The statuses of answers that redirect messages. -/
def redirections : List Nat := [301, 302, 303, 307, 308]

/-- How often a message is redirected at most. -/
def maxRedirects : Nat := 10

/-- Whether an answer redirects a message to a look, and not to the same once more. -/
def Method.looksAfter (status : Nat) (m : Method) : Bool :=
  status = 303 || (m = .post && (status = 301 || status = 302))

namespace Message

/-- **Where an answer redirects a message to**, if it does. A place that no identifier can be made
of does not count. -/
def elsewhere? (m : Message) (a : Answer) : Option Url :=
  if a.status ∈ redirections then
    (a.location.bind fun l => (m.url.join l).toOption).filter fun u => (Uri.parse u.text).isOk
  else none

/-- **A message that is redirected** by an answer with a status. -/
def redirected (m : Message) (status : Nat) (u : Url) : Message :=
  let looks := m.method.looksAfter status
  { method := if looks then .get else m.method
    url := u
    authorization := if m.url.sameServer u then m.authorization else []
    content := if looks then .empty else m.content }

/-- **What is sent after something came back**, if a message is redirected. -/
def next? (m : Message) (r : Reception) : Option (Except Failure Message) :=
  r.head?.bind fun a => (m.elsewhere? a).map fun u =>
    if carries u.scheme then .ok (m.redirected a.status u) else .error (.unusable (some u))

theorem next?_of_location_eq_none {m : Message} {a : Answer} (h : a.location = none) :
    m.next? (.whole a) = none := by
  simp [next?, Reception.head?, elsewhere?, h]

end Message

end GceMachines.Http
