import GceMachines.Lifecycle.Plan

/-!
# Running plans

A plan runs against a backend on a clock that shows milliseconds and jumps: it stands still while
things happen at once, and moves to the next instant at which something can go on. At one and the
same instant a cancellation counts before a deadline, and a deadline before an answer.

* `Backend`: what answers calls, after some time or never.
* `World`: the clock, the backend's state, and what was asked and counted so far.
* `Backend.handler`: the meaning of a plan's questions.
-/

namespace GceMachines

/-- An answer, if it came. -/
def Waited.toOption {α : Type} : Waited α → Option α
  | .came a => some a
  | _ => none

/-- What a backend makes of a call. -/
inductive Response (α : Type)
  /-- It answers after some milliseconds. -/
  | after (ms : Nat) (result : Except ServiceError α)
  | never

/-- **What answers calls**, with a state of its own. -/
structure Backend (σ : Type) where
  connect : Secret → σ → Response Unit × σ
  call : (r : Request) → σ → Response r.Reply × σ
  /-- Notices that a plan has waited for some milliseconds. -/
  wait : (ms : Nat) → σ → σ
  /-- Whether someone has asked to stop. -/
  interrupted : σ → Bool

/-- What reaches the backend. -/
inductive Contact
  | connect (secret : Secret)
  | call (r : Request)

/-- The call of a contact. -/
def Contact.request? : Contact → Option Request
  | .connect _ => none
  | .call r => some r

/-- **A run at one moment.** -/
structure World (σ : Type) where
  now : Nat
  state : σ
  /-- What reached the backend and when, the latest first. -/
  contacts : List (Nat × Contact)
  /-- What was counted, the latest first. -/
  measures : List Measure

namespace World

variable {σ : Type}

/-- The beginning of a run. -/
def start (s : σ) : World σ := ⟨0, s, [], []⟩

/-- The calls that reached the backend, the first one first. -/
def calls (w : World σ) : List (Nat × Request) :=
  w.contacts.reverse.filterMap fun (t, c) => c.request?.map fun r => (t, r)

/-- The same moment, not before an instant. -/
def advance (w : World σ) (t : Nat) : World σ := { w with now := max w.now t }

end World

namespace Backend

variable {σ : Type}

/-- Whether a plan that is to be cancelled at an instant is cancelled by now. -/
def isCancelled (b : Backend σ) (cancelAt : Option Nat) (w : World σ) : Bool :=
  (cancelAt.any fun c => c ≤ w.now) || b.interrupted w.state

/-- The first of some instants at which waiting ends: the cancellation, the deadline, or that at
which something comes. None of them need ever be, and all that lie in the past are now. -/
def firstOf {α : Type} (w : World σ) (cancelAt deadline : Option Nat)
    (comes : Option (Nat × α)) : Program.Outcome (World σ) (Waited α) :=
  let before (t : Nat) (other : Option Nat) : Bool := other.all fun u => max w.now t ≤ max w.now u
  let came := comes.map Prod.fst
  match cancelAt.filter fun t => before t deadline && before t came with
  | some t => .answered .cancelled (w.advance t)
  | none =>
    match deadline.filter fun t => before t came with
    | some t => .answered .late (w.advance t)
    | none =>
      match comes with
      | some (t, a) => .answered (.came a) (w.advance t)
      | none => .stuck w

/-- A call with which the plan waits for the first of a cancellation, a deadline and the answer.
One that is cancelled or late from the beginning does not reach the backend. -/
def waitFor (b : Backend σ) (cancelAt deadline : Option Nat) (r : Request) (w : World σ) :
    Program.Outcome (World σ) (Waited (Except ServiceError r.Reply)) :=
  if b.isCancelled cancelAt w then .answered .cancelled w
  else if deadline.any (· ≤ w.now) then .answered .late w
  else
    let (response, s) := b.call r w.state
    let w' : World σ := { w with state := s, contacts := (w.now, .call r) :: w.contacts }
    match response with
    | .after ms result => firstOf w' cancelAt deadline (some (w.now + ms, result))
    | .never =>
      if b.interrupted s then .answered .cancelled w' else firstOf w' cancelAt deadline none

/-- A call or a connection that is seen through. -/
def seeThrough {α : Type} (c : Contact) (reply : σ → Response α × σ) (w : World σ) :
    Program.Outcome (World σ) (Except ServiceError α) :=
  let (response, s) := reply w.state
  let w' : World σ := { w with state := s, contacts := (w.now, c) :: w.contacts }
  match response with
  | .after ms result => .answered result (w'.advance (w.now + ms))
  | .never => .stuck w'

/-- The end of some waiting, with a backend that has noticed the time. If someone has asked to stop
meanwhile, that has ended the waiting. -/
def noticing {α : Type} (b : Backend σ) (w : World σ) :
    Program.Outcome (World σ) (Waited α) → Program.Outcome (World σ) (Waited α)
  | .answered a w' =>
    let s := b.wait (w'.now - w.now) w'.state
    .answered (if b.interrupted s then .cancelled else a) { w' with state := s }
  | .stuck w' => .stuck w'

/-- **The meaning of a plan's questions** in a run that is cancelled at an instant, or never. -/
def handler (b : Backend σ) (cancelAt : Option Nat) :
    Program.Handler Ask.Answer (World σ)
  | .connect secret, w => seeThrough (.connect secret) (b.connect secret) w
  | .call r, w => seeThrough (.call r) (b.call r) w
  | .abortable r, w =>
    match b.waitFor cancelAt none r w with
    | .answered a w => .answered a.toOption w
    | .stuck w => .stuck w
  | .bounded r deadline, w => b.waitFor cancelAt (some deadline) r w
  | .sleep wake deadline, w =>
    if b.isCancelled cancelAt w then .answered .cancelled w
    else b.noticing w (firstOf w cancelAt (some deadline) (some (wake, ())))
  | .cancelled, w => .answered (b.isCancelled cancelAt w) w
  | .clock, w => .answered w.now w
  | .count m, w => .answered () { w with measures := m :: w.measures }

/-- **A plan run** from a moment on. -/
def run {α : Type} (b : Backend σ) (cancelAt : Option Nat) (p : Plan α) (w : World σ) :
    Program.Outcome (World σ) α :=
  p.run (b.handler cancelAt) w

end Backend

end GceMachines
