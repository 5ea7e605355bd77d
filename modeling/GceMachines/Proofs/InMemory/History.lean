import GceMachines.Proofs.Crowd.Journal

/-!
# Histories of the service in memory

A history is everything that happens to the service from some moment on: calls of any kind,
failures that are scripted in between, instances that are put into the store, and settings that are
changed. How a single call is answered follows from the service alone. A look may hang; otherwise
the next failure scripted for the kind of the call is given out, whatever the call is about, and
only a call without one is looked at, and refused on its own grounds or accepted.

* `Happening`, `InMemory.history`: what happens, and the service after it.
* `gathered`: what is seen in a history, one happening after the other.
* `conserved`: a queue that is filled and emptied in a history.
* `Refuses`: the grounds on which the service itself refuses a call.
* `answer_of_hangs`, `answer_of_scripted`, `answer_of_refuses`, `answer_of_accepts`: how a call is
  answered.
-/

namespace GceMachines

/-- **What can happen to the service.** -/
inductive Happening
  | call (r : Request)
  | failNext (k : CallKind) (e : ServiceError)
  | failNextOperation (errors : List OperationFault)
  | hangPolls (on : Bool)
  | add (project zone : String) (i : Instance)
  /-- Other pages, and another number of looks until an operation is done. -/
  | configure (pageSize looksUntilDone : Nat)

/-- The kind of a call. Asking for an instance by its name is of none: it is not counted, and no
failures can be scripted for it. -/
def Request.kind? : Request → Option CallKind
  | .insert _ _ _ => some .insert
  | .delete _ => some .delete
  | .get _ => none
  | .list _ _ _ => some .list
  | .operation _ _ _ => some .poll

/-- The counts after one more call. -/
def CallCounts.bump (c : CallCounts) : CallKind → CallCounts
  | .insert => { c with insert := c.insert + 1 }
  | .delete => { c with delete := c.delete + 1 }
  | .list => { c with list := c.list + 1 }
  | .poll => { c with poll := c.poll + 1 }

namespace ScriptedFailures

variable {f : ScriptedFailures} {k k' : CallKind} {es : List ServiceError}

@[simp] theorem set_of (f : ScriptedFailures) (k : CallKind) : f.set (f.of k) k = f := by
  cases k <;> rfl

theorem of_set : (f.set es k).of k' = if k = k' then es else f.of k' := by
  cases k <;> cases k' <;> rfl

theorem operation_set : (f.set es k).operation = f.operation := by
  cases k <;> rfl

end ScriptedFailures

namespace InMemory

variable {α : Type} {m : InMemory} {r : Request} {e : ServiceError} {es : List ServiceError}

/-- The service after something has happened to it. -/
def upon (m : InMemory) : Happening → InMemory
  | .call r => (answer r m).2
  | .failNext k e => m.failNext k e
  | .failNextOperation errors => m.failNextOperation errors
  | .hangPolls on => m.hangPolls on
  | .add project zone i => m.add project zone i
  | .configure pageSize looksUntilDone =>
    { m with
      pageSize := max 1 pageSize
      looksUntilDone
      pageSize_pos := Nat.le_max_left 1 pageSize }

/-- **The service after a history.** -/
def history (m : InMemory) (hs : List Happening) : InMemory := hs.foldl upon m

/-- **What is seen in a history**, where `see` says what is seen of a single happening. -/
def gathered (see : InMemory → Happening → Option α) : InMemory → List Happening → List α
  | _, [] => []
  | m, h :: hs => (see m h).toList ++ gathered see (m.upon h) hs

@[simp] theorem history_nil (m : InMemory) : m.history [] = m := rfl

@[simp] theorem history_cons (m : InMemory) (h : Happening) (hs : List Happening) :
    m.history (h :: hs) = (m.upon h).history hs := rfl

/-- **A queue is conserved** by a history if every happening conserves it: what was in it and what
is put into it are what is taken out of it and what is left in it, in the same order. -/
theorem conserved {queue : InMemory → List α} {put : Happening → Option α}
    {taken : InMemory → Happening → Option α}
    (hstep : ∀ m h, queue m ++ (put h).toList = (taken m h).toList ++ queue (m.upon h))
    (m : InMemory) (hs : List Happening) :
    queue m ++ hs.filterMap put = m.gathered taken hs ++ queue (m.history hs) := by
  induction hs generalizing m with
  | nil => simp [gathered]
  | cons h hs ih =>
    calc queue m ++ (h :: hs).filterMap put
        = queue m ++ (put h).toList ++ hs.filterMap put := by
          cases hp : put h <;> simp [hp]
      _ = (taken m h).toList ++ (queue (m.upon h) ++ hs.filterMap put) := by
          rw [hstep, List.append_assoc]
      _ = m.gathered taken (h :: hs) ++ queue (m.history (h :: hs)) := by
          rw [ih, gathered, List.append_assoc, history_cons]

/-! ### One call -/

/-- A look that is never answered. -/
def Hangs (m : InMemory) (r : Request) : Prop := m.pollsHang = true ∧ r.kind? = some .poll

/-- The failures that are scripted for calls of this kind. -/
def scriptFor (m : InMemory) (r : Request) : List ServiceError :=
  match r.kind? with
  | some k => m.failures.of k
  | none => []

/-- **The grounds on which the service itself refuses a call**, with what it says. -/
def Refuses (m : InMemory) : Request → ServiceError → Prop
  | .insert project zone body, e =>
    m.instances.contains ⟨project, zone, body.name⟩ = true ∧
      e = alreadyThere ⟨project, zone, body.name⟩
  | .delete target, e => m.instances.contains target = false ∧ e = notThere target
  | .get target, e => m.instances.contains target = false ∧ e = notThere target
  | .list _ _ token, e => offset? token = none ∧ e = badToken (token.getD "")
  | .operation _ _ name, e => m.operations.contains name = false ∧ e = noOperation name

/-- The service after a call that left nothing but its count. -/
def counted (m : InMemory) (r : Request) : InMemory :=
  match r.kind? with
  | some k => { m with counts := m.counts.bump k }
  | none => m

/-- **The service after a call that was refused**: the call is counted, and the next failure that
was scripted for its kind is gone, if there was one. -/
def refused (m : InMemory) (r : Request) : InMemory :=
  match r.kind? with
  | some k =>
    { m with
      counts := m.counts.bump k
      failures := m.failures.set (m.failures.of k).tail k }
  | none => m

theorem answer_of_hangs (h : m.Hangs r) : answer r m = (none, m.counted r) := by
  obtain ⟨hm, hr⟩ := h
  cases r with
  | operation project zone name =>
    simp only [answer, poll]
    rw [if_pos hm]
    rfl
  | insert | delete | get | list => cases hr

/-- **A scripted failure is given out** before anything else about the call is looked at. -/
theorem answer_of_scripted (hn : ¬ m.Hangs r) (hs : m.scriptFor r = e :: es) :
    answer r m = (some (.error e), m.refused r) := by
  cases r with
  | get target => cases hs
  | insert project zone body =>
    have hs : m.failures.insert = e :: es := hs
    simp only [answer, insert, refused, Request.kind?, ScriptedFailures.of, hs]
    rfl
  | delete target =>
    have hs : m.failures.delete = e :: es := hs
    simp only [answer, delete, refused, Request.kind?, ScriptedFailures.of, hs]
    rfl
  | list project zone token =>
    have hs : m.failures.list = e :: es := hs
    simp only [answer, list, refused, Request.kind?, ScriptedFailures.of, hs]
    rfl
  | operation project zone name =>
    have hs : m.failures.poll = e :: es := hs
    have hm : m.pollsHang = false := by
      rw [← Bool.not_eq_true]
      exact fun h => hn ⟨h, rfl⟩
    simp only [answer, poll, refused, Request.kind?, ScriptedFailures.of, hs, hm]
    rfl

theorem refused_of_unscripted (hs : m.scriptFor r = []) : m.refused r = m.counted r := by
  unfold refused counted
  unfold scriptFor at hs
  cases hk : r.kind? with
  | none => rfl
  | some k =>
    rw [hk] at hs
    dsimp only at hs ⊢
    rw [hs, List.tail_nil, ← hs, ScriptedFailures.set_of]

/-- **A call without a scripted failure** is refused on the service's own grounds. -/
theorem answer_of_refuses (hn : ¬ m.Hangs r) (hs : m.scriptFor r = []) (h : m.Refuses r e) :
    answer r m = (some (.error e), m.refused r) := by
  rw [refused_of_unscripted hs]
  cases r with
  | insert project zone body =>
    obtain ⟨hthere, rfl⟩ := h
    have hs : m.failures.insert = [] := hs
    simp only [answer, insert, hs]
    rw [if_pos hthere]
    rfl
  | delete target =>
    obtain ⟨hfree, rfl⟩ := h
    have hs : m.failures.delete = [] := hs
    simp only [answer, delete, hs]
    rw [hfree]
    rfl
  | get target =>
    obtain ⟨hfree, rfl⟩ := h
    simp only [answer, get, SortedMap.contains_eq_false_iff.mp hfree]
    rfl
  | list project zone token =>
    obtain ⟨htoken, rfl⟩ := h
    have hs : m.failures.list = [] := hs
    simp only [answer, list, hs, htoken]
    rfl
  | operation project zone name =>
    obtain ⟨hfree, rfl⟩ := h
    have hs : m.failures.poll = [] := hs
    have hm : ¬ m.pollsHang = true := fun hm => hn ⟨hm, rfl⟩
    simp only [answer, poll, hs, SortedMap.contains_eq_false_iff.mp hfree]
    rw [if_neg hm]
    rfl

/-- **Any other call is accepted.** -/
theorem answer_of_accepts (hn : ¬ m.Hangs r) (hs : m.scriptFor r = []) (h : ∀ e, ¬ m.Refuses r e) :
    ∃ a, (answer r m).1 = some (.ok a) := by
  cases r with
  | insert project zone body =>
    have hs : m.failures.insert = [] := hs
    have hfree : ¬ m.instances.contains ⟨project, zone, body.name⟩ = true := fun hthere =>
      h _ ⟨hthere, rfl⟩
    simp only [answer, insert, hs]
    rw [if_neg hfree]
    exact ⟨_, rfl⟩
  | delete target =>
    have hs : m.failures.delete = [] := hs
    have hthere : m.instances.contains target = true := by
      rw [← Bool.not_eq_false]
      exact fun hfree => h _ ⟨hfree, rfl⟩
    simp only [answer, delete, hs]
    rw [if_pos hthere]
    exact ⟨_, rfl⟩
  | get target =>
    obtain ⟨i, hi⟩ : ∃ i, m.instances.get? target = some i := by
      refine Option.ne_none_iff_exists'.mp fun hfree => h _ ⟨?_, rfl⟩
      exact SortedMap.contains_eq_false_iff.mpr hfree
    simp only [answer, get, hi]
    exact ⟨_, rfl⟩
  | list project zone token =>
    have hs : m.failures.list = [] := hs
    obtain ⟨start, hstart⟩ : ∃ start, offset? token = some start :=
      Option.ne_none_iff_exists'.mp fun hnone => h _ ⟨hnone, rfl⟩
    simp only [answer, list, hs, hstart]
    exact ⟨_, rfl⟩
  | operation project zone name =>
    have hs : m.failures.poll = [] := hs
    have hm : ¬ m.pollsHang = true := fun hm => hn ⟨hm, rfl⟩
    obtain ⟨o, ho⟩ : ∃ o, m.operations.get? name = some o := by
      refine Option.ne_none_iff_exists'.mp fun hfree => h _ ⟨?_, rfl⟩
      exact SortedMap.contains_eq_false_iff.mpr hfree
    simp only [answer, poll, hs, ho]
    rw [if_neg hm]
    exact ⟨_, rfl⟩

/-- **How a call is answered**: it hangs, or the next failure scripted for its kind is given out, or
it has none and is refused on the service's own grounds, or there are none and it is accepted. -/
theorem answer_cases (m : InMemory) (r : Request) :
    m.Hangs r ∧ answer r m = (none, m.counted r) ∨
    ¬ m.Hangs r ∧
      ((∃ e es, m.scriptFor r = e :: es ∧ answer r m = (some (.error e), m.refused r)) ∨
        m.scriptFor r = [] ∧
          ((∃ e, m.Refuses r e ∧ answer r m = (some (.error e), m.refused r)) ∨
            (∀ e, ¬ m.Refuses r e) ∧ ∃ a, (answer r m).1 = some (.ok a))) := by
  by_cases hh : m.Hangs r
  · exact .inl ⟨hh, answer_of_hangs hh⟩
  refine .inr ⟨hh, ?_⟩
  cases hs : m.scriptFor r with
  | cons e es => exact .inl ⟨e, es, rfl, answer_of_scripted hh hs⟩
  | nil =>
    refine .inr ⟨rfl, ?_⟩
    by_cases hr : ∃ e, m.Refuses r e
    · obtain ⟨e, he⟩ := hr
      exact .inl ⟨e, he, answer_of_refuses hh hs he⟩
    · have hr := not_exists.mp hr
      exact .inr ⟨hr, answer_of_accepts hh hs hr⟩

/-- **An accepted call** leaves the scripts, but for the errors of its operation if it is a
change. -/
theorem failures_of_accepted {a : r.Reply} (h : (answer r m).1 = some (.ok a)) :
    (answer r m).2.failures = { m.failures with
      operation := if r.isMutation then m.failures.operation.tail else m.failures.operation } := by
  cases r with
  | insert project zone body =>
    have h : (m.insert project zone body).1 = .ok a := Option.some.inj h
    show (m.insert project zone body).2.failures = _
    unfold insert at h ⊢
    dsimp only at h ⊢
    split at h
    · cases h
    · split at h
      · cases h
      · next hfree =>
        rw [if_neg hfree]
        dsimp only
        split <;> rfl
  | delete target =>
    have h : (m.delete target).1 = .ok a := Option.some.inj h
    show (m.delete target).2.failures = _
    unfold delete at h ⊢
    dsimp only at h ⊢
    split at h
    · cases h
    · split at h
      · next hthere =>
        rw [if_pos hthere]
        dsimp only
        split <;> rfl
      · cases h
  | get target => rfl
  | list project zone token =>
    have h : (m.list project zone token).1 = .ok a := Option.some.inj h
    show (m.list project zone token).2.failures = _
    unfold list at h ⊢
    dsimp only at h ⊢
    split at h
    · cases h
    · split at h
      · cases h
      · rfl
  | operation project zone name =>
    have h : (m.poll name).1 = some (.ok a) := h
    show (m.poll name).2.failures = _
    unfold poll at h ⊢
    dsimp only at h ⊢
    split at h
    · cases h
    · next hm =>
      rw [if_neg hm]
      split at h
      · cases h
      · split at h
        · cases h
        · rfl

end InMemory

end GceMachines
