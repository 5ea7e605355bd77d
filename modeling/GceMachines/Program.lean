/-!
# Programs that ask

A program is a tree: it is done with a value, or it asks a question and goes on with the answer.
What a question means is left to whoever runs the program: a handler answers each question in a
state, or never answers it. Everything a program may do to the world is therefore in its
questions, and a program cannot notice more of the world than their answers.

A program that would ask for ever is cut off somewhere, and is then `unfinished`.

* `Program`, `Program.bind`: programs and their sequence.
* `Program.run`: a program run by a handler.
* `run_bind`: a sequence runs in sequence.
-/

namespace GceMachines

/-- **A program** that asks questions `q` with answers `A q`, and ends with a value. -/
inductive Program {Q : Type} (A : Q → Type) (α : Type) : Type
  | done (a : α)
  | ask (q : Q) (next : A q → Program A α)
  | unfinished

namespace Program

variable {Q : Type} {A : Q → Type} {α β γ ε σ : Type}

/-- A program followed by another. -/
def bind : Program A α → (α → Program A β) → Program A β
  | done a, f => f a
  | ask q next, f => ask q fun a => (next a).bind f
  | unfinished, _ => unfinished

theorem bind_assoc (p : Program A α) (f : α → Program A β) (g : β → Program A γ) :
    (p.bind f).bind g = p.bind fun a => (f a).bind g := by
  induction p with
  | done a => rfl
  | ask q next ih => simp only [bind]; congr; funext a; exact ih a
  | unfinished => rfl

theorem bind_done (p : Program A α) : p.bind done = p := by
  induction p with
  | done a => rfl
  | ask q next ih => simp only [bind]; congr; funext a; exact ih a
  | unfinished => rfl

/-- A question as a program. -/
def question (q : Q) : Program A (A q) := ask q done

/-- A program that goes on only after a success. -/
def bindOk (p : Program A (Except ε α)) (f : α → Program A (Except ε β)) :
    Program A (Except ε β) :=
  p.bind fun
    | .ok a => f a
    | .error e => done (.error e)

/-- How a run ends: with a value, or waiting for ever. -/
inductive Outcome (σ α : Type)
  | answered (a : α) (s : σ)
  | stuck (s : σ)

/-- The state at the end of a run. -/
def Outcome.state : Outcome σ α → σ
  | .answered _ s => s
  | .stuck s => s

/-- What answers questions in a state. -/
abbrev Handler (A : Q → Type) (σ : Type) : Type := (q : Q) → σ → Outcome σ (A q)

/-- **A program run by a handler.** -/
def run (h : Handler A σ) : Program A α → σ → Outcome σ α
  | done a, s => .answered a s
  | ask q next, s =>
    match h q s with
    | .answered a s => (next a).run h s
    | .stuck s => .stuck s
  | unfinished, s => .stuck s

theorem run_bind (h : Handler A σ) (p : Program A α) (f : α → Program A β) (s : σ) :
    (p.bind f).run h s =
      match p.run h s with
      | .answered a s => (f a).run h s
      | .stuck s => .stuck s := by
  induction p generalizing s with
  | done a => rfl
  | ask q next ih =>
    simp only [bind, run]
    cases h q s with
    | answered a s => exact ih a s
    | stuck s => rfl
  | unfinished => rfl

end Program

end GceMachines
