import GceMachines.Compute.InMemory

/-!
# What the service in memory says

A service that does not let its callers wait for ever answers every call. It then refuses a call
with a status and a reason of its own or with a failure that is scripted, so if all of these have a
status that tells of a refusal, and a reason, every refusal has.

* `ServiceError.Tells`: a refusal with a status and a reason.
* `InMemory.Speaks`: a service that answers, and whose scripted failures are such refusals.
* `Speaks.answer`: what such a service answers, and that it stays one.
-/

namespace GceMachines

/-- **A refusal with a status and a reason.** -/
def ServiceError.Tells : ServiceError → Prop
  | .api status message => 400 ≤ status ∧ status < 600 ∧ message ≠ ""
  | _ => False

/-- **A service that answers**, and that can say why it refuses a call. -/
structure InMemory.Speaks (m : InMemory) : Prop where
  answers : m.pollsHang = false
  insert : ∀ e ∈ m.failures.insert, e.Tells
  delete : ∀ e ∈ m.failures.delete, e.Tells
  list : ∀ e ∈ m.failures.list, e.Tells
  poll : ∀ e ∈ m.failures.poll, e.Tells

namespace InMemory

/-- What is told by a reply. -/
def Told {α : Type} (reply : Except ServiceError α) : Prop := ∀ e, reply = .error e → e.Tells

theorem told_ok {α : Type} (a : α) : Told (.ok a : Except ServiceError α) := nofun

theorem told_error {α : Type} {e : ServiceError} (h : e.Tells) :
    Told (.error e : Except ServiceError α) := by
  rintro _ ⟨⟩
  exact h

/-! ### Refusals -/

theorem ne_empty_of_front {front back : String} (h : front ≠ "") : front ++ back ≠ "" := by
  intro he
  exact h (String.append_eq_empty_iff.mp he).1

theorem notThere_tells (target : MachineId) : (notThere target).Tells :=
  ⟨by decide, by decide, ne_empty_of_front (ne_empty_of_front (by decide))⟩

theorem alreadyThere_tells (target : MachineId) : (alreadyThere target).Tells :=
  ⟨by decide, by decide, ne_empty_of_front (ne_empty_of_front (by decide))⟩

theorem noOperation_tells (name : String) : (noOperation name).Tells :=
  ⟨by decide, by decide, ne_empty_of_front (ne_empty_of_front (by decide))⟩

theorem badToken_tells (token : String) : (badToken token).Tells :=
  ⟨by decide, by decide, ne_empty_of_front (ne_empty_of_front (by decide))⟩

/-! ### Calls -/

namespace Speaks

variable {m : InMemory}

theorem insert_told (h : m.Speaks) (project zone : String) (body : Instance) :
    Told (m.insert project zone body).1 ∧ (m.insert project zone body).2.Speaks := by
  unfold InMemory.insert
  dsimp only
  cases hf : m.failures.insert with
  | cons e es =>
    have hall := List.forall_mem_cons.mp (hf ▸ h.insert)
    exact ⟨told_error hall.1, h.answers, hall.2, h.delete, h.list, h.poll⟩
  | nil =>
    dsimp only
    split
    · exact ⟨told_error (alreadyThere_tells _), h.answers, h.insert, h.delete, h.list, h.poll⟩
    · refine ⟨told_ok _, ?_⟩
      split
      · exact ⟨h.answers, h.insert, h.delete, h.list, h.poll⟩
      · exact ⟨h.answers, h.insert, h.delete, h.list, h.poll⟩

theorem delete_told (h : m.Speaks) (target : MachineId) :
    Told (m.delete target).1 ∧ (m.delete target).2.Speaks := by
  unfold InMemory.delete
  dsimp only
  cases hf : m.failures.delete with
  | cons e es =>
    have hall := List.forall_mem_cons.mp (hf ▸ h.delete)
    exact ⟨told_error hall.1, h.answers, h.insert, hall.2, h.list, h.poll⟩
  | nil =>
    dsimp only
    split
    · refine ⟨told_ok _, ?_⟩
      split
      · exact ⟨h.answers, h.insert, h.delete, h.list, h.poll⟩
      · exact ⟨h.answers, h.insert, h.delete, h.list, h.poll⟩
    · exact ⟨told_error (notThere_tells _), h.answers, h.insert, h.delete, h.list, h.poll⟩

theorem get_told (m : InMemory) (target : MachineId) : Told (m.get target) := by
  unfold get
  split
  · exact told_ok _
  · exact told_error (notThere_tells _)

theorem list_told (h : m.Speaks) (project zone : String) (token : Option String) :
    Told (m.list project zone token).1 ∧ (m.list project zone token).2.Speaks := by
  unfold InMemory.list
  dsimp only
  cases hf : m.failures.list with
  | cons e es =>
    have hall := List.forall_mem_cons.mp (hf ▸ h.list)
    exact ⟨told_error hall.1, h.answers, h.insert, h.delete, hall.2, h.poll⟩
  | nil =>
    dsimp only
    split
    · exact ⟨told_error (badToken_tells _), h.answers, h.insert, h.delete, h.list, h.poll⟩
    · exact ⟨told_ok _, h.answers, h.insert, h.delete, h.list, h.poll⟩

theorem poll_told (h : m.Speaks) (name : String) :
    ∃ reply m', m.poll name = (some reply, m') ∧ Told reply ∧ m'.Speaks := by
  unfold InMemory.poll
  dsimp only
  rw [h.answers, if_neg Bool.false_ne_true]
  cases hf : m.failures.poll with
  | cons e es =>
    have hall := List.forall_mem_cons.mp (hf ▸ h.poll)
    exact ⟨_, _, rfl, told_error hall.1, rfl, h.insert, h.delete, h.list, hall.2⟩
  | nil =>
    dsimp only
    split
    · exact ⟨_, _, rfl, told_error (noOperation_tells _), rfl, h.insert, h.delete, h.list, h.poll⟩
    · exact ⟨_, _, rfl, told_ok _, rfl, h.insert, h.delete, h.list, h.poll⟩

/-- **Every call is answered**, and what is refused is refused for a reason. -/
theorem answer (h : m.Speaks) (r : Request) :
    ∃ reply m', InMemory.answer r m = (some reply, m') ∧ Told reply ∧ m'.Speaks := by
  cases r with
  | insert project zone body => exact ⟨_, _, rfl, h.insert_told project zone body⟩
  | delete target => exact ⟨_, _, rfl, h.delete_told target⟩
  | get target => exact ⟨_, _, rfl, get_told m target, h⟩
  | list project zone token => exact ⟨_, _, rfl, h.list_told project zone token⟩
  | operation project zone name => exact h.poll_told name

end Speaks

end InMemory

end GceMachines
