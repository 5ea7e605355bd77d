import GceMachines.Http.Redirect
import GceMachines.Program

/-!
# Errands

An errand is a program that asks the outside: it sends messages, reads files, looks at the clock
and lets time pass.

* `Inquiry`, `Inquiry.Answer`: its questions and their answers.
* `Errand`: an errand.
* `Outside`: what answers the questions, and whether someone there has asked to stop.
-/

namespace GceMachines

/-- **A question to the outside.** -/
inductive Inquiry
  | send (d : Http.Dispatch)
  | file (path : String)
  /-- The seconds since the beginning of 1970. -/
  | unixTime
  /-- Lets milliseconds pass. -/
  | pause (ms : Nat)
  deriving DecidableEq, Repr

/-- What answers a question to the outside. A file that cannot be read comes with the wording of
the reason. -/
abbrev Inquiry.Answer : Inquiry → Type
  | .send _ => Http.Reception
  | .file _ => Except String (List UInt8)
  | .unixTime => Int
  | .pause _ => Unit

/-- **A program with these questions.** -/
abbrev Errand (α : Type) : Type := Program Inquiry.Answer α

namespace Errand

/-- **Sends a message**, and then what it is redirected to, so many times at most. -/
def deliver : (times : Nat) → Http.Message → Errand (Except Http.Failure Http.Answer)
  | 0, m => .ask (.send m.dispatch) fun r =>
    match m.next? r with
    | none => .done (r.answer m)
    | some _ => .done (.error (.endless m.url))
  | times + 1, m => .ask (.send m.dispatch) fun r =>
    match m.next? r with
    | none => .done (r.answer m)
    | some (.error f) => .done (.error f)
    | some (.ok next) => deliver times next

/-- Sends a message, if it could be formed. -/
def send (m : Except Http.Failure Http.Message) : Errand (Except Http.Failure Http.Answer) :=
  match m with
  | .error f => .done (.error f)
  | .ok m => deliver Http.maxRedirects m

/-- What is said of a file that holds no text. -/
def notText : String := "stream did not contain valid UTF-8"

/-- Reads a file that holds a text. -/
def readText (path : String) : Errand (Except String String) :=
  .ask (.file path) fun r =>
    .done (r.bind fun bs => match Utf8.decode? bs with
      | some text => .ok text
      | none => .error notText)

end Errand

/-- **What is outside**, in a state of its own. -/
structure Outside (σ : Type) where
  handler : Program.Handler Inquiry.Answer σ
  /-- Whether someone has asked to stop. -/
  interrupted : σ → Bool

end GceMachines
