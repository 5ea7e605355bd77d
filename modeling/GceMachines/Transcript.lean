import GceMachines.Errand

/-!
# Transcripts

An errand asks its questions one after the other, and what it asks next depends on the answers so
far only. So it can be run over the answers that are known: it then ends, or it comes to a first
question that is still open. Whoever finds the answer to that question outside can run it again
with one answer more, and comes one question further.

* `Finding`: a question and what came of it.
* `Transcript.outside`: an outside that knows the findings so far.
* `Transcript.openQuestion`: the first question that they do not answer.
* `handler_of_open`: behind an open question nothing is answered any more.
-/

namespace GceMachines

/-- **A question and what came of it.** -/
structure Finding where
  question : Inquiry
  /-- The answer, unless someone asked to stop before it came. -/
  answer : Option question.Answer
  /-- Whether someone had asked to stop by then. -/
  interrupted : Bool

/-- **A run over known findings**: those that are left, and what was noticed so far. -/
structure Transcript where
  ahead : List Finding
  interrupted : Bool
  openQuestion : Option Inquiry

namespace Transcript

/-- The beginning of a run. -/
def start (known : List Finding) : Transcript := ⟨known, false, none⟩

/-- Answers a question from the findings. -/
def handler : Program.Handler Inquiry.Answer Transcript := fun q t =>
  match t.openQuestion, t.ahead with
  | some _, _ => .stuck t
  | none, [] => .stuck { t with openQuestion := some q }
  | none, e :: rest =>
    let t' : Transcript := { t with ahead := rest, interrupted := e.interrupted }
    if h : e.question = q then
      match e.answer with
      | some a => .answered (h ▸ a) t'
      | none => .stuck t'
    else .stuck t'

/-- **The outside that knows the findings so far.** -/
def outside : Outside Transcript := ⟨handler, Transcript.interrupted⟩

theorem handler_of_open {t : Transcript} {p : Inquiry} (h : t.openQuestion = some p) (q : Inquiry) :
    handler q t = .stuck t := by
  simp [handler, h]

theorem handler_start_cons (e : Finding) (a : e.question.Answer) (rest : List Finding)
    (h : e.answer = some a) :
    handler e.question (start (e :: rest)) =
      .answered a { start rest with interrupted := e.interrupted } := by
  simp [handler, start, h]

end Transcript

end GceMachines
