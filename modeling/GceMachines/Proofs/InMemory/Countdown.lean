import GceMachines.Proofs.InMemory.Scripts

/-!
# The life of an operation in memory

An operation runs until it was looked at a number of times, which is settled when it is started, and
is done from then on for good. Only its own looks that succeed count: looks at other operations,
looks that hang and looks that are answered with a scripted failure do not bring it nearer to its
end. Until it is done it shows no errors, and then always the same ones.

* `Change.shown`: the operation of a change, as it is shown after some looks.
* `submitted?`, `showing?`: the operation that a change is answered with, and what a look at an
  operation shows.
* `Stands`: an operation that was looked at a number of times.
* `Stands.upon`, `Stands.history`: one happening, and all of them.
* `operation_life`: the whole life of every operation.
-/

namespace GceMachines

namespace Change

variable {ch : Change} {looks seen : Nat}

/-- **The operation of a change, as it is shown** after it was looked at `seen` times, if it is done
after a number of looks. -/
def shown (ch : Change) (looks seen : Nat) : Operation :=
  { Operation.blank with
    name := ch.operation
    status := if seen < looks then .running else .done
    error := if seen < looks then none else ch.outcome
    operationType := some ch.kind.name
    targetLink := some ch.target.path
    zone := some ch.target.zone }

/-- The operation of a change, as the service keeps it. -/
def kept (ch : Change) (looks seen : Nat) : StartedOperation :=
  ⟨ch.shown looks seen, looks - seen, ch.outcome⟩

theorem shown_congr {n : Nat} (h : seen < looks ↔ n < looks) :
    ch.shown looks seen = ch.shown looks n := by
  unfold shown
  simp only [h]

/-- **One look more.** -/
theorem look_kept (ch : Change) (looks seen : Nat) :
    (ch.kept looks seen).look = ch.kept looks (seen + 1) := by
  have hleft : (ch.kept looks seen).looksLeft = looks - seen := rfl
  unfold StartedOperation.look
  split
  · next h =>
    -- it was done before
    unfold kept
    rw [shown_congr (n := seen + 1) (by omega), show looks - seen = looks - (seen + 1) by omega]
  · next h =>
    have hnot : ¬ seen + 1 < looks := by omega
    have hnone : looks - (seen + 1) = 0 := by omega
    simp only [kept, shown, hnot, hnone, if_false]
  · next n h =>
    unfold kept
    rw [shown_congr (n := seen + 1) (by omega), show looks - (seen + 1) = n + 1 by omega]

end Change

namespace InMemory

variable {m : InMemory} {r : Request} {ch : Change} {name : String} {looks seen : Nat}

/-- What succeeds in a reply. -/
def success? {α : Type} : Option (Except ServiceError α) → Option α
  | some (.ok a) => some a
  | _ => none

/-- **The operation that a change is answered with.** -/
def submitted? (m : InMemory) : Request → Option Operation
  | .insert project zone body => success? (some (m.insert project zone body).1)
  | .delete target => success? (some (m.delete target).1)
  | _ => none

/-- **What a look at an operation shows**, if it succeeds. -/
def showing? (name : String) (m : InMemory) : Happening → Option Operation
  | .call (.operation _ _ name') => if name' = name then success? (m.poll name').1 else none
  | _ => none

/-- **An operation that was looked at a number of times.** -/
structure Stands (ch : Change) (looks seen : Nat) (m : InMemory) : Prop where
  /-- Its name is not used again. -/
  old : ∃ n < m.serial, ch.operation = operationName n
  kept : m.operations.get? ch.operation = some (ch.kept looks seen)

/-! ### The start -/

theorem start_eq (m : InMemory) (kind : ChangeKind) (target : MachineId) :
    let ch : Change := ⟨kind, target, operationName m.serial, m.nextOutcome⟩
    (m.start kind.name target).1 = ch.shown m.looksUntilDone 0 ∧
      (m.start kind.name target).2.2.operations =
        m.operations.insert ch.operation (ch.kept m.looksUntilDone 0) := by
  intro ch
  have hop : (m.start kind.name target).1 = ch.shown m.looksUntilDone 0 := by
    unfold start Change.shown
    by_cases h : m.looksUntilDone = 0
    · simp only [h, if_true, Nat.lt_irrefl, if_false]
      rfl
    · simp only [h, if_false, Nat.pos_of_ne_zero h, if_true]
      rfl
  refine ⟨hop, ?_⟩
  show m.operations.insert (m.start kind.name target).1.name
    ⟨(m.start kind.name target).1, m.looksUntilDone, m.nextOutcome⟩ = _
  rw [hop]
  rfl

theorem shown_of_insert {m' : InMemory} {project zone : String} {body : Instance} {op : Operation}
    (h : m.insert project zone body = (.ok op, m')) :
    let ch : Change := ⟨.insertion, ⟨project, zone, body.name⟩, op.name, m.nextOutcome⟩
    op = ch.shown m.looksUntilDone 0 ∧
      m'.operations = m.operations.insert ch.operation (ch.kept m.looksUntilDone 0) := by
  unfold insert at h
  dsimp only at h
  split at h
  · cases h
  · split at h
    · cases h
    · cases h
      obtain ⟨hop, hoperations⟩ := m.start_eq .insertion ⟨project, zone, body.name⟩
      refine ⟨hop, Eq.trans ?_ hoperations⟩
      split <;> rfl

theorem shown_of_delete {m' : InMemory} {target : MachineId} {op : Operation}
    (h : m.delete target = (.ok op, m')) :
    let ch : Change := ⟨.deletion, target, op.name, m.nextOutcome⟩
    op = ch.shown m.looksUntilDone 0 ∧
      m'.operations = m.operations.insert ch.operation (ch.kept m.looksUntilDone 0) := by
  unfold delete at h
  dsimp only at h
  split at h
  · cases h
  · split at h
    · cases h
      obtain ⟨hop, hoperations⟩ := m.start_eq .deletion target
      refine ⟨hop, Eq.trans ?_ hoperations⟩
      split <;> rfl
    · cases h

/-- **A change that is accepted** is answered with its operation, at which nobody has looked. -/
theorem shown_of_change? (h : m.change? r = some ch) :
    m.submitted? r = some (ch.shown m.looksUntilDone 0) ∧
      (answer r m).2.operations =
        m.operations.insert ch.operation (ch.kept m.looksUntilDone 0) := by
  cases r with
  | get | list | operation => cases h
  | insert project zone body =>
    simp only [change?] at h
    split at h
    · next op hok =>
      cases h
      obtain ⟨hop, hoperations⟩ := shown_of_insert (Prod.ext hok rfl)
      refine ⟨?_, hoperations⟩
      show success? (some (m.insert project zone body).1) = _
      rw [hok]
      exact congrArg some hop
    · cases h
  | delete target =>
    simp only [change?] at h
    split at h
    · next op hok =>
      cases h
      obtain ⟨hop, hoperations⟩ := shown_of_delete (Prod.ext hok rfl)
      refine ⟨?_, hoperations⟩
      show success? (some (m.delete target).1) = _
      rw [hok]
      exact congrArg some hop
    · cases h

theorem stands_of_change? (h : m.change? r = some ch) :
    Stands ch m.looksUntilDone 0 (m.upon (.call r)) := by
  have hmade := made_of_change? h
  refine ⟨⟨m.serial, ?_, hmade.operation_eq⟩, ?_⟩
  · show m.serial < (answer r m).2.serial
    rw [hmade.serial_eq]
    exact Nat.lt_succ_self _
  · show (answer r m).2.operations.get? ch.operation = _
    rw [(shown_of_change? h).2]
    exact SortedMap.get?_insert_self

/-! ### One happening -/

theorem operations_counted (m : InMemory) (r : Request) :
    (m.counted r).operations = m.operations ∧ (m.counted r).serial = m.serial := by
  unfold counted
  cases r.kind? <;> exact ⟨rfl, rfl⟩

theorem operations_refused (m : InMemory) (r : Request) :
    (m.refused r).operations = m.operations ∧ (m.refused r).serial = m.serial := by
  unfold refused
  cases r.kind? <;> exact ⟨rfl, rfl⟩

theorem Stands.congr {m' : InMemory} (h : Stands ch looks seen m)
    (hsame : m'.operations = m.operations ∧ m'.serial = m.serial) : Stands ch looks seen m' := by
  obtain ⟨hold, hkept⟩ := h
  refine ⟨?_, ?_⟩
  · rw [hsame.2]
    exact hold
  · rw [hsame.1]
    exact hkept

/-- **A look at an operation** that stands. -/
theorem Stands.poll_eq (h : Stands ch looks seen m) (hm : m.pollsHang = false)
    (hs : m.failures.poll = []) :
    (m.poll ch.operation).1 = some (.ok (ch.shown looks (seen + 1))) ∧
      Stands ch looks (seen + 1) (m.poll ch.operation).2 := by
  have hlook : (ch.kept looks seen).look = ch.kept looks (seen + 1) := ch.look_kept looks seen
  unfold poll
  simp only [hm, hs, h.kept, hlook]
  exact ⟨rfl, h.old, SortedMap.get?_insert_self⟩

theorem Stands.poll_of_ne (h : Stands ch looks seen m) (hne : name ≠ ch.operation) :
    Stands ch looks seen (m.poll name).2 := by
  unfold poll
  dsimp only
  split
  · exact h.congr ⟨rfl, rfl⟩
  · split
    · exact h.congr ⟨rfl, rfl⟩
    · split
      · exact h.congr ⟨rfl, rfl⟩
      · exact ⟨h.old, (SortedMap.get?_insert_of_ne hne.symm).trans h.kept⟩

theorem Stands.of_made {m' : InMemory} {ch' : Change} (h : Stands ch looks seen m)
    (hmade : ch'.Made m m') : Stands ch looks seen m' := by
  obtain ⟨⟨n, hn, hname⟩, hkept⟩ := h
  obtain ⟨o, -, -, -, hoperations⟩ := hmade.started
  have hne : ch.operation ≠ ch'.operation := by
    rw [hname, hmade.operation_eq, Ne, operationName_inj]
    omega
  refine ⟨⟨n, ?_, hname⟩, ?_⟩
  · rw [hmade.serial_eq]
    omega
  · rw [hoperations, SortedMap.get?_insert_of_ne hne]
    exact hkept

theorem showing?_of_failed (h : ∀ a, (answer r m).1 ≠ some (.ok a)) :
    m.showing? name (.call r) = none := by
  cases r with
  | operation project zone name' =>
    have hnone : success? (m.poll name').1 = none := by
      unfold success?
      split
      · next a ha => exact absurd ha (h a)
      · rfl
    show (if name' = name then success? (m.poll name').1 else none) = none
    rw [hnone, ite_self]
  | insert | delete | get | list => rfl

/-- **Whatever happens** to an operation that stands: it is shown with one look more, or it stands
as before and is not shown. -/
theorem Stands.upon (h : Stands ch looks seen m) (x : Happening) :
    m.showing? ch.operation x = some (ch.shown looks (seen + 1)) ∧
        Stands ch looks (seen + 1) (m.upon x) ∨
      m.showing? ch.operation x = none ∧ Stands ch looks seen (m.upon x) := by
  cases x with
  | failNext | failNextOperation | hangPolls | add | configure => exact .inr ⟨rfl, h.congr ⟨rfl, rfl⟩⟩
  | call r =>
    show _ ∧ Stands ch looks (seen + 1) (answer r m).2 ∨ _ ∧ Stands ch looks seen (answer r m).2
    rcases m.answer_cases r with
      ⟨-, ha⟩ | ⟨hn, ⟨e, es, -, ha⟩ | ⟨hs, ⟨e, -, ha⟩ | ⟨hr, a, ha⟩⟩⟩
    · refine .inr ⟨showing?_of_failed (by simp [ha]), ?_⟩
      rw [ha]
      exact h.congr (m.operations_counted r)
    · refine .inr ⟨showing?_of_failed (by simp [ha]), ?_⟩
      rw [ha]
      exact h.congr (m.operations_refused r)
    · refine .inr ⟨showing?_of_failed (by simp [ha]), ?_⟩
      rw [ha]
      exact h.congr (m.operations_refused r)
    · cases r with
      | get => exact .inr ⟨rfl, h⟩
      | list project zone token =>
        have hsame : Surveyed m (m.list project zone token).2 := surveyed_list (.refl m)
        exact .inr ⟨rfl, h.congr ⟨hsame.operations, hsame.serial⟩⟩
      | insert | delete =>
        obtain ⟨ch', hch'⟩ := Option.isSome_iff_exists.mp (change?_of_ok ha).1
        exact .inr ⟨rfl, h.of_made (made_of_change? hch')⟩
      | operation project zone name =>
        by_cases hname : name = ch.operation
        · subst hname
          have hm : m.pollsHang = false := by
            rw [← Bool.not_eq_true]
            exact fun hm => hn ⟨hm, rfl⟩
          obtain ⟨hreply, hstands⟩ := h.poll_eq hm hs
          refine .inl ⟨?_, hstands⟩
          show (if ch.operation = ch.operation then success? (m.poll ch.operation).1 else none) = _
          rw [if_pos rfl, hreply]
          rfl
        · exact .inr ⟨if_neg hname, h.poll_of_ne hname⟩

/-! ### Histories -/

/-- **What a history shows of an operation**: one look more each time. -/
theorem Stands.history (h : Stands ch looks seen m) (hs : List Happening) :
    m.gathered (showing? ch.operation) hs =
        (List.range' (seen + 1) (m.gathered (showing? ch.operation) hs).length).map
          (ch.shown looks) ∧
      Stands ch looks (seen + (m.gathered (showing? ch.operation) hs).length) (m.history hs) := by
  induction hs generalizing m seen with
  | nil => exact ⟨rfl, h⟩
  | cons x hs ih =>
    rcases h.upon x with ⟨hshown, hstands⟩ | ⟨hshown, hstands⟩
    · obtain ⟨hseen, hend⟩ := ih hstands
      have hall : m.gathered (showing? ch.operation) (x :: hs) = ch.shown looks (seen + 1) ::
          (m.upon x).gathered (showing? ch.operation) hs := by
        rw [gathered, hshown]
        rfl
      rw [hall, List.length_cons, List.range'_succ, List.map_cons, ← hseen]
      refine ⟨rfl, ?_⟩
      rw [Nat.add_comm _ 1, ← Nat.add_assoc]
      exact hend
    · have hall : m.gathered (showing? ch.operation) (x :: hs) =
          (m.upon x).gathered (showing? ch.operation) hs := by
        rw [gathered, hshown]
        rfl
      rw [hall]
      exact ih hstands

/-- **The next look** at an operation that stands. -/
theorem Stands.next (h : Stands ch looks seen m) : (m.poll ch.operation).1 =
    if m.pollsHang then none
    else match m.failures.poll with
      | e :: _ => some (.error e)
      | [] => some (.ok (ch.shown looks (seen + 1))) := by
  cases hm : m.pollsHang with
  | true =>
    unfold poll
    rw [hm]
    rfl
  | false =>
    rw [if_neg Bool.false_ne_true]
    cases hs : m.failures.poll with
    | nil => exact (h.poll_eq hm hs).1
    | cons e es =>
      unfold poll
      simp only [hm, hs]
      rfl

/-- **The life of an operation**, whatever the service has been through before and whatever happens
to it afterwards. The change that is accepted is answered with the operation as nobody has looked at
it. The looks at it that succeed show it, one after the other, as it was looked at once, twice and
so on: still running and without errors before the look that ends it, and done from that one on,
always with the errors that were scripted for it, and never with another name, kind, target or zone.
After any history the next look shows it with one look more, unless looks hang or a failure is
scripted for them; so nothing else brings it nearer to its end. -/
theorem operation_life (m : InMemory) {r : Request} {ch : Change} (h : m.change? r = some ch) :
    ch.outcome = m.nextOutcome ∧
      m.submitted? r = some (ch.shown m.looksUntilDone 0) ∧
      ∀ hs : List Happening,
        let seen := (m.upon (.call r)).gathered (showing? ch.operation) hs
        let m' := (m.upon (.call r)).history hs
        seen = (List.range' 1 seen.length).map (ch.shown m.looksUntilDone) ∧
          (m'.poll ch.operation).1 =
            if m'.pollsHang then none
            else match m'.failures.poll with
              | e :: _ => some (.error e)
              | [] => some (.ok (ch.shown m.looksUntilDone (seen.length + 1))) := by
  refine ⟨(made_of_change? h).outcome_eq, (shown_of_change? h).1, fun hs => ?_⟩
  obtain ⟨hseen, hstands⟩ := (stands_of_change? h).history hs
  rw [Nat.zero_add] at hseen hstands
  exact ⟨hseen, hstands.next⟩

/-- A machine whose deletion ends with errors after two looks. -/
def stubborn : InMemory :=
  ((new 1 2).addTagged "p" "z" "a" []).failNextOperation [⟨"QUOTA", none, "no room"⟩]

/-- The deletion of that machine. -/
def stubbornDeletion : Change :=
  ⟨.deletion, ⟨"p", "z", "a"⟩, operationName 0, some ⟨[⟨"QUOTA", none, "no room"⟩]⟩⟩

/-- Looks at the deletion; the second of them fails, and a deletion that does not fail comes
between. -/
def stubbornHistory : List Happening :=
  let look : Happening := .call (.operation "p" "z" (operationName 0))
  [look, .failNext .poll (.api 500 ""), look, .call (.delete ⟨"p", "z", "a"⟩), look, look]

/-- The deletion is seen to run once, and then to be done with its errors. -/
theorem stubborn_life :
    stubborn.change? (.delete ⟨"p", "z", "a"⟩) = some stubbornDeletion ∧
      stubborn.submitted? (.delete ⟨"p", "z", "a"⟩) = some (stubbornDeletion.shown 2 0) ∧
      (stubborn.upon (.call (.delete ⟨"p", "z", "a"⟩))).gathered (showing? (operationName 0))
          stubbornHistory = [1, 2, 3].map (stubbornDeletion.shown 2) := by
  have hchange : stubborn.change? (.delete ⟨"p", "z", "a"⟩) = some stubbornDeletion := by decide
  obtain ⟨-, hsubmitted, hlife⟩ := operation_life stubborn hchange
  have hcount : ((stubborn.upon (.call (.delete ⟨"p", "z", "a"⟩))).gathered
      (showing? stubbornDeletion.operation) stubbornHistory).length = 3 := by decide
  have hseen := (hlife stubbornHistory).1
  rw [hcount] at hseen
  exact ⟨hchange, hsubmitted, hseen⟩

end InMemory

end GceMachines
