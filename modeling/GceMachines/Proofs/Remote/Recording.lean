import GceMachines.Compute.Remote
import GceMachines.Proofs.Lifecycle.Simulation

/-!
# A record of what is sent

To tell which messages an errand sends, they are written down together with what came back. The
record is written from the answers and changes none of them.

* `Sent`, `Outside.recording`: a message that was sent, and the outside with its record.
* `run_recording_of_unsent`: an errand that sends nothing leaves the record as it is.
* `Delivered`: what a message leaves in the record, with all that it is redirected to.
* `run_recording_send`: sending a message leaves that.
* `recording_agrees`: without the record, the service behind an address is the same.
-/

namespace GceMachines

open Program (Outcome)

variable {σ ξ α : Type}

/-- An end beside something that it leaves as it is. -/
def Program.Outcome.beside (x : ξ) : Outcome σ α → Outcome (σ × ξ) α
  | .answered a s => .answered a (s, x)
  | .stuck s => .stuck (s, x)

/-- What a run ends with, if it ends. -/
def Program.Outcome.result? : Outcome σ α → Option α
  | .answered a _ => some a
  | .stuck _ => none

theorem Program.Outcome.Agree.result?_eq {τ : Type} {R : σ → τ → Prop} {o : Outcome σ α}
    {o' : Outcome τ α} (h : Outcome.Agree R o o') : o.result? = o'.result? := by
  cases h <;> rfl

/-- **A message that was sent**, and what came back, if anything ever did. -/
structure Sent where
  dispatch : Http.Dispatch
  reception : Option Http.Reception
  deriving DecidableEq

namespace Outside

/-- **The outside with a record** of what was sent, the first message first. -/
def recording (o : Outside σ) : Outside (σ × List Sent) where
  handler
    | .send d, (s, sent) =>
      match o.handler (.send d) s with
      | .answered r t => .answered r (t, sent ++ [⟨d, some r⟩])
      | .stuck t => .stuck (t, sent ++ [⟨d, none⟩])
    | q, (s, sent) => (o.handler q s).beside sent
  interrupted s := o.interrupted s.1

variable {o : Outside σ} {s : σ} {sent : List Sent}

/-- A question that sends nothing. -/
def Unsent (q : Inquiry) : Prop := ∀ d, q ≠ .send d

theorem recording_of_unsent {q : Inquiry} (hq : Unsent q) :
    o.recording.handler q (s, sent) = (o.handler q s).beside sent := by
  cases q with
  | send d => exact absurd rfl (hq d)
  | _ => rfl

/-- **An errand that sends nothing** leaves the record as it is. -/
theorem run_recording_of_unsent : ∀ {p : Errand α}, p.Asks Unsent → ∀ s,
    p.run o.recording.handler (s, sent) = (p.run o.handler s).beside sent
  | .done _, _, _ => rfl
  | .unfinished, _, _ => rfl
  | .ask q next, hp, s => by
    have hq : o.recording.handler q (s, sent) = (o.handler q s).beside sent :=
      recording_of_unsent hp.1
    cases ha : o.handler q s with
    | answered a t =>
      rw [ha] at hq
      rw [Program.run_ask_of_answered next hq, Program.run_ask_of_answered next ha]
      exact run_recording_of_unsent (hp.2 a) t
    | stuck t =>
      rw [ha] at hq
      rw [Program.run_ask_of_stuck next hq, Program.run_ask_of_stuck next ha]
      rfl

/-! ### Messages -/

theorem recording_of_answered {d : Http.Dispatch} {r : Http.Reception} {t : σ}
    (h : o.handler (.send d) s = .answered r t) :
    o.recording.handler (.send d) (s, sent) = .answered r (t, sent ++ [⟨d, some r⟩]) := by
  simp only [recording, h]

theorem recording_of_stuck {d : Http.Dispatch} {t : σ} (h : o.handler (.send d) s = .stuck t) :
    o.recording.handler (.send d) (s, sent) = .stuck (t, sent ++ [⟨d, none⟩]) := by
  simp only [recording, h]

/-- **What a message leaves in the record** that may be redirected so many times, and what comes of
it: the message itself, and then what it is redirected to by what came back. -/
inductive Delivered : Nat → Http.Message → List Sent →
    Option (Except Http.Failure Http.Answer) → Prop
  /-- Nothing ever comes back. -/
  | silent {times : Nat} {m : Http.Message} : Delivered times m [⟨m.dispatch, none⟩] none
  | settled {times : Nat} {m : Http.Message} {r : Http.Reception} (h : m.next? r = none) :
    Delivered times m [⟨m.dispatch, some r⟩] (some (r.answer m))
  | endless {m : Http.Message} {r : Http.Reception} {next : Except Http.Failure Http.Message}
    (h : m.next? r = some next) :
    Delivered 0 m [⟨m.dispatch, some r⟩] (some (.error (.endless m.url)))
  /-- It is redirected to where no message goes. -/
  | lost {times : Nat} {m : Http.Message} {r : Http.Reception} {f : Http.Failure}
    (h : m.next? r = some (.error f)) :
    Delivered (times + 1) m [⟨m.dispatch, some r⟩] (some (.error f))
  | redirected {times : Nat} {m next : Http.Message} {r : Http.Reception} {later : List Sent}
    {answer : Option (Except Http.Failure Http.Answer)} (h : m.next? r = some (.ok next))
    (hl : Delivered times next later answer) :
    Delivered (times + 1) m (⟨m.dispatch, some r⟩ :: later) answer

theorem run_deliver_of_stuck {m : Http.Message} {t : σ}
    (ha : o.handler (.send m.dispatch) s = .stuck t) (times : Nat) :
    (Errand.deliver times m).run o.handler s = .stuck t := by
  cases times <;> exact Program.run_ask_of_stuck _ ha

theorem run_deliver_of_settled {m : Http.Message} {r : Http.Reception} {t : σ}
    (ha : o.handler (.send m.dispatch) s = .answered r t) (hn : m.next? r = none) (times : Nat) :
    (Errand.deliver times m).run o.handler s = .answered (r.answer m) t := by
  cases times <;> rw [Errand.deliver, Program.run_ask_of_answered _ ha, hn] <;> rfl

/-- **Sending a message** leaves that in the record. The recursion is on how often it may still be
redirected, which matters only if what came back redirects it. -/
theorem run_recording_deliver (o : Outside σ) : ∀ (times : Nat) (m : Http.Message) (s : σ)
    (sent : List Sent),
    ∃ more, ((Errand.deliver times m).run o.recording.handler (s, sent)).state.2 = sent ++ more ∧
      Delivered times m more
        ((Errand.deliver times m).run o.recording.handler (s, sent)).result?
  | times, m, s, sent => by
    cases ha : o.handler (.send m.dispatch) s with
    | stuck t =>
      rw [run_deliver_of_stuck (recording_of_stuck ha)]
      exact ⟨[_], rfl, .silent⟩
    | answered r t =>
      have hr : o.recording.handler (.send m.dispatch) (s, sent) = _ := recording_of_answered ha
      match times, hn : m.next? r with
      | _, none =>
        rw [run_deliver_of_settled hr hn]
        exact ⟨[_], rfl, .settled hn⟩
      | 0, some next =>
        rw [Errand.deliver, Program.run_ask_of_answered _ hr, hn]
        exact ⟨[_], rfl, .endless hn⟩
      | times + 1, some (.error f) =>
        rw [Errand.deliver, Program.run_ask_of_answered _ hr, hn]
        exact ⟨[_], rfl, .lost hn⟩
      | times + 1, some (.ok next) =>
        rw [Errand.deliver, Program.run_ask_of_answered _ hr, hn]
        obtain ⟨later, hlater, hd⟩ :=
          run_recording_deliver o times next t (sent ++ [⟨m.dispatch, some r⟩])
        exact ⟨_ :: later, by rw [hlater, List.append_assoc]; rfl, .redirected hn hd⟩

/-- **What sending leaves in the record**: a message that cannot be formed is not sent. -/
inductive Records (m : Except Http.Failure Http.Message) :
    List Sent → Option (Except Http.Failure Http.Answer) → Prop
  | unformed {f : Http.Failure} (hm : m = .error f) : Records m [] (some (.error f))
  | formed {msg : Http.Message} {more : List Sent}
    {answer : Option (Except Http.Failure Http.Answer)} (hm : m = .ok msg)
    (hd : Delivered Http.maxRedirects msg more answer) : Records m more answer

theorem run_recording_send (o : Outside σ) (m : Except Http.Failure Http.Message) (s : σ)
    (sent : List Sent) :
    ∃ more, ((Errand.send m).run o.recording.handler (s, sent)).state.2 = sent ++ more ∧
      Records m more ((Errand.send m).run o.recording.handler (s, sent)).result? := by
  cases m with
  | error f => exact ⟨[], (List.append_nil _).symm, .unformed rfl⟩
  | ok msg =>
    obtain ⟨more, hmore, hd⟩ := run_recording_deliver o Http.maxRedirects msg s sent
    exact ⟨more, hmore, .formed rfl hd⟩

/-! ### Without the record -/

/-- A state with a record belongs to the state without. -/
def WithRecord (x : σ × List Sent) (s : σ) : Prop := x.1 = s

theorem beside_agree (out : Outcome σ α) (sent : List Sent) :
    Outcome.Agree WithRecord (out.beside sent) out := by
  cases out with
  | answered a s => exact .answered a rfl
  | stuck s => exact .stuck rfl

theorem handler_recording_agree (o : Outside σ) (q : Inquiry) {x : σ × List Sent} {s : σ}
    (hx : WithRecord x s) :
    Outcome.Agree WithRecord (o.recording.handler q x) (o.handler q s) := by
  obtain ⟨s', sent⟩ := x
  obtain rfl : s' = s := hx
  cases q with
  | send d =>
    simp only [recording]
    cases o.handler (.send d) s' with
    | answered r t => exact .answered r rfl
    | stuck t => exact .stuck rfl
  | file path => exact beside_agree (o.handler (.file path) s') sent
  | unixTime => exact beside_agree (o.handler .unixTime s') sent
  | pause ms => exact beside_agree (o.handler (.pause ms) s') sent

/-- **The record changes nothing** for an errand. -/
theorem run_recording_agree (o : Outside σ) (p : Errand α) {x : σ × List Sent} {s : σ}
    (hx : WithRecord x s) :
    Outcome.Agree WithRecord (p.run o.recording.handler x) (p.run o.handler s) :=
  Program.run_agree (fun q _ _ => handler_recording_agree o q) p hx

end Outside

namespace Remote

/-- What is kept between calls, with a record and without. -/
structure WithRecord (x : Remote (σ × List Sent)) (y : Remote σ) : Prop where
  outside : Outside.WithRecord x.outside y.outside
  access : x.access = y.access
  measures : x.measures = y.measures

/-- **Without the record**, the service behind an address is the same. -/
theorem recording_agrees (o : Outside σ) (endpoint : String) :
    (backend o.recording endpoint).Agrees (backend o endpoint) (fun _ => True) WithRecord where
  connect secret x y _ h := by
    have hrun := Outside.run_recording_agree o (Token.fetch secret) h.outside
    simp only [backend, connect]
    generalize (Token.fetch secret).run o.recording.handler x.outside = out at hrun
    generalize (Token.fetch secret).run o.handler y.outside = out' at hrun
    cases hrun with
    | stuck ht => exact ⟨rfl, ht, rfl, h.measures⟩
    | answered token ht =>
      dsimp only
      split
      · exact ⟨rfl, ht, rfl, h.measures⟩
      · exact ⟨rfl, ht, rfl, h.measures⟩
  call r x y _ h := by
    simp only [backend, call]
    rw [h.access]
    cases y.access with
    | none => exact ⟨rfl, h.outside, by rw [h.access], h.measures⟩
    | some a =>
      have hrun := Outside.run_recording_agree o (Errand.send (a.message r)) h.outside
      dsimp only
      generalize (Errand.send (a.message r)).run o.recording.handler x.outside = out at hrun
      generalize (Errand.send (a.message r)).run o.handler y.outside = out' at hrun
      cases hrun with
      | stuck ht => exact ⟨rfl, ht, rfl, h.measures⟩
      | answered answer ht => exact ⟨rfl, ht, rfl, by rw [h.measures]⟩
  wait ms x y h :=
    ⟨(Outside.handler_recording_agree o (.pause ms) h.outside).state, h.access, h.measures⟩
  interrupted x y h := by
    show o.interrupted x.outside.1 = o.interrupted y.outside
    rw [h.outside]

end Remote

end GceMachines
