import Mathlib.Logic.Relation
import Std.Data.String.ToNat
import GceMachines.Proofs.Crowd.Basic
import GceMachines.Proofs.InMemory.Operations
import GceMachines.Proofs.Lifecycle.Simulation

/-!
# A journal of the service in memory

To tell what many callers do together, everything that reaches the service is written down: who
asked for what, and which change the service accepted for it. The journal is written from the
answers and changes none of them.

* `Change`, `InMemory.change?`: a change that is accepted.
* `Journal`, `Journal.backend`: the service with its journal, as one of the callers reaches it.
* `handler_service`: without the journal, it is the service.
* `operationName_inj`: operations have different names.
* `Made`, `Unmade`: what a call with an accepted change makes of the service, and one without.
* `Recorded`: what calls of some kind, in any order, make of a journal.
-/

namespace GceMachines

/-! ### Changes -/

/-- The two kinds of changes. -/
inductive ChangeKind
  | insertion
  | deletion
  deriving DecidableEq

/-- What the service calls a kind of change. -/
def ChangeKind.name : ChangeKind → String
  | .insertion => "insert"
  | .deletion => "delete"

/-- **A change that the service accepted.** -/
structure Change where
  kind : ChangeKind
  target : MachineId
  /-- The name of the operation that was started for it. -/
  operation : String
  /-- The errors scripted for that operation. With any, the change has no effect. -/
  outcome : Option OperationError
  deriving DecidableEq

namespace InMemory

/-- **The change that is accepted** when a call is answered. -/
def change? (m : InMemory) : Request → Option Change
  | .insert project zone body =>
    match (m.insert project zone body).1 with
    | .ok op => some ⟨.insertion, ⟨project, zone, body.name⟩, op.name, m.nextOutcome⟩
    | .error _ => none
  | .delete target =>
    match (m.delete target).1 with
    | .ok op => some ⟨.deletion, target, op.name, m.nextOutcome⟩
    | .error _ => none
  | .get _ => none
  | .list _ _ _ => none
  | .operation _ _ _ => none

end InMemory

namespace Change

/-- **The entry of the operation** that was started for a change. -/
structure Entry (ch : Change) (o : StartedOperation) : Prop where
  name_eq : o.shown.name = ch.operation
  kind_eq : o.shown.operationType = some ch.kind.name
  target_eq : o.shown.targetLink = some ch.target.path
  outcome_eq : o.outcome = ch.outcome

theorem Entry.look {ch : Change} {o : StartedOperation} (h : ch.Entry o) : ch.Entry o.look := by
  obtain ⟨hn, hk, ht, ho⟩ := h
  unfold StartedOperation.look
  split <;> exact ⟨hn, hk, ht, ho⟩

/-- What a change makes of the instances, if it has an effect. -/
def Effect (ch : Change) (before after : SortedMap MachineId Instance) : Prop :=
  match ch.kind with
  | .insertion => ∃ i : Instance, i.name = ch.target.name ∧ after = before.insert ch.target i
  | .deletion => after = before.erase ch.target

/-- **What an accepted change makes of the service.** An insertion is accepted only for a machine
that is absent, and a deletion only for one that is there. -/
structure Made (ch : Change) (m m' : InMemory) : Prop where
  guard : m.instances.contains ch.target = decide (ch.kind = .deletion)
  operation_eq : ch.operation = InMemory.operationName m.serial
  outcome_eq : ch.outcome = m.nextOutcome
  serial_eq : m'.serial = m.serial + 1
  started : ∃ o, ch.Entry o ∧ o.Coherent ∧ o.looksLeft = m.looksUntilDone ∧
    m'.operations = m.operations.insert ch.operation o
  failed : ch.outcome.isSome = true → m'.instances = m.instances
  effect : ch.outcome = none → ch.Effect m.instances m'.instances

variable {ch : Change} {m m' : InMemory}

theorem Made.inserted (h : ch.Made m m') (hkind : ch.kind = .insertion) (hout : ch.outcome = none) :
    ∃ i : Instance, m'.instances = m.instances.insert ch.target i := by
  have heffect := h.effect hout
  unfold Effect at heffect
  rw [hkind] at heffect
  obtain ⟨i, -, hafter⟩ := heffect
  exact ⟨i, hafter⟩

theorem Made.erased (h : ch.Made m m') (hkind : ch.kind = .deletion) (hout : ch.outcome = none) :
    m'.instances = m.instances.erase ch.target := by
  have heffect := h.effect hout
  unfold Effect at heffect
  rw [hkind] at heffect
  exact heffect

end Change

namespace InMemory

/-- **What a call without an accepted change makes of the service**: an operation may have been
looked at. -/
structure Unmade (m m' : InMemory) : Prop where
  instances_eq : m'.instances = m.instances
  serial_eq : m'.serial = m.serial
  operations : ∀ name, m'.operations.get? name = m.operations.get? name ∨
    m'.operations.get? name = (m.operations.get? name).map StartedOperation.look

variable {m m' : InMemory} {project zone : String} {body : Instance} {target : MachineId}
  {op : Operation} {e : ServiceError} {r : Request}

/-- **No two operations have the same name.** -/
theorem operationName_inj {n n' : Nat} : operationName n = operationName n' ↔ n = n' := by
  unfold operationName ticket
  rw [String.append_right_inj, Nat.toString_eq_repr, Nat.toString_eq_repr, Nat.repr_inj]
  exact Nat.add_left_cancel_iff

theorem entry_start (m : InMemory) (kind : ChangeKind) (target : MachineId) :
    ∃ o, Change.Entry ⟨kind, target, operationName m.serial, m.nextOutcome⟩ o ∧ o.Coherent ∧
      o.looksLeft = m.looksUntilDone ∧
      (m.start kind.name target).2.2.operations =
        m.operations.insert (operationName m.serial) o := by
  refine ⟨_, ⟨rfl, rfl, rfl, rfl⟩, ⟨?_, fun h => ?_⟩, rfl, rfl⟩
  · by_cases h : m.looksUntilDone = 0 <;> simp [h, Operation.isDone]
  · exact if_pos (show m.looksUntilDone = 0 from h)

theorem insert_made (h : m.insert project zone body = (.ok op, m')) :
    Change.Made ⟨.insertion, ⟨project, zone, body.name⟩, op.name, m.nextOutcome⟩ m m' := by
  obtain ⟨hfree, hacc⟩ := insert_eq_ok h
  have hnot := SortedMap.contains_eq_false_iff.mpr hfree
  obtain ⟨o, hentry, hcoherent, hlooks, hoperations⟩ :=
    entry_start m .insertion ⟨project, zone, body.name⟩
  have hstart : m'.serial = m.serial + 1 ∧
      m'.operations = m.operations.insert (operationName m.serial) o := by
    rw [← hoperations]
    unfold insert at h
    dsimp only at h
    split at h
    · cases h
    · rw [hnot, if_neg Bool.false_ne_true] at h
      cases h
      constructor <;> split <;> rfl
  rw [hacc.named]
  refine ⟨hnot, rfl, rfl, hstart.1, ⟨o, hentry, hcoherent, hlooks, hstart.2⟩, fun hf => ?_,
    fun hf => ⟨created m.serial ⟨project, zone, body.name⟩ body, rfl, ?_⟩⟩
  · rw [hacc.instances, if_pos hf]
  · rw [hacc.instances, if_neg (by rw [show m.nextOutcome = none from hf]; exact Bool.false_ne_true)]

theorem delete_made (h : m.delete target = (.ok op, m')) :
    Change.Made ⟨.deletion, target, op.name, m.nextOutcome⟩ m m' := by
  have hacc := delete_eq_ok h
  obtain ⟨o, hentry, hcoherent, hlooks, hoperations⟩ := entry_start m .deletion target
  have hstart : m.instances.contains target = true ∧ m'.serial = m.serial + 1 ∧
      m'.operations = m.operations.insert (operationName m.serial) o := by
    rw [← hoperations]
    unfold delete at h
    dsimp only at h
    split at h
    · cases h
    · split at h
      · next hthere =>
        cases h
        refine ⟨hthere, ?_⟩
        constructor <;> split <;> rfl
      · cases h
  rw [hacc.named]
  refine ⟨hstart.1, rfl, rfl, hstart.2.1, ⟨o, hentry, hcoherent, hlooks, hstart.2.2⟩, fun hf => ?_,
    fun hf => ?_⟩
  · rw [hacc.instances, if_pos hf]
  · rw [hacc.instances, if_neg (by rw [show m.nextOutcome = none from hf]; exact Bool.false_ne_true)]
    rfl

theorem insert_unmade (h : m.insert project zone body = (.error e, m')) : m.Unmade m' := by
  unfold insert at h
  dsimp only at h
  split at h
  · cases h
    exact ⟨rfl, rfl, fun _ => .inl rfl⟩
  · split at h
    · cases h
      exact ⟨rfl, rfl, fun _ => .inl rfl⟩
    · cases h

theorem delete_unmade (h : m.delete target = (.error e, m')) : m.Unmade m' := by
  unfold delete at h
  dsimp only at h
  split at h
  · cases h
    exact ⟨rfl, rfl, fun _ => .inl rfl⟩
  · split at h
    · cases h
    · cases h
      exact ⟨rfl, rfl, fun _ => .inl rfl⟩

theorem list_unmade (m : InMemory) (project zone : String) (token : Option String) :
    m.Unmade (m.list project zone token).2 := by
  obtain ⟨counts, fs, h⟩ : Surveyed m (m.list project zone token).2 :=
    surveyed_list (Surveyed.refl m)
  rw [h]
  exact ⟨rfl, rfl, fun _ => .inl rfl⟩

theorem poll_unmade (m : InMemory) (name : String) : m.Unmade (m.poll name).2 := by
  unfold poll
  dsimp only
  split
  · exact ⟨rfl, rfl, fun _ => .inl rfl⟩
  · split
    · exact ⟨rfl, rfl, fun _ => .inl rfl⟩
    · split
      · exact ⟨rfl, rfl, fun _ => .inl rfl⟩
      · next o ho =>
        refine ⟨rfl, rfl, fun name' => ?_⟩
        by_cases hn : name' = name
        · subst hn
          refine .inr ?_
          rw [ho]
          exact SortedMap.get?_insert_self
        · exact .inl (SortedMap.get?_insert_of_ne hn)

/-- **A call with an accepted change.** -/
theorem made_of_change? {ch : Change} (h : m.change? r = some ch) : ch.Made m (answer r m).2 := by
  cases r with
  | get => cases h
  | list => cases h
  | operation => cases h
  | insert project zone body =>
    simp only [change?] at h
    split at h
    · next op hop =>
      cases h
      exact insert_made (Prod.ext hop rfl)
    · cases h
  | delete target =>
    simp only [change?] at h
    split at h
    · next op hop =>
      cases h
      exact delete_made (Prod.ext hop rfl)
    · cases h

/-- **A call without an accepted change.** -/
theorem unmade_of_change? (h : m.change? r = none) : m.Unmade (answer r m).2 := by
  cases r with
  | get => exact ⟨rfl, rfl, fun _ => .inl rfl⟩
  | list project zone token => exact list_unmade m project zone token
  | operation project zone name => exact poll_unmade m name
  | insert project zone body =>
    simp only [change?] at h
    split at h
    · cases h
    · next e he => exact insert_unmade (Prod.ext he rfl)
  | delete target =>
    simp only [change?] at h
    split at h
    · cases h
    · next e he => exact delete_unmade (Prod.ext he rfl)

end InMemory

/-! ### The journal -/

/-- A call that has reached the service, with the change that was accepted for it. -/
structure Visit where
  caller : Nat
  request : Request
  change : Option Change
  deriving DecidableEq

/-- **The service with its journal**, the first visit first. -/
structure Journal where
  service : InMemory
  visits : List Visit

namespace Journal

variable {j j' : Journal} {i k : Nat} {r : Request}

/-- The changes that were accepted, the first one first. -/
def changes (j : Journal) : List Change := j.visits.filterMap Visit.change

/-- **A call** that is answered and written down. -/
def record (caller : Nat) (r : Request) (j : Journal) : Journal :=
  ⟨(InMemory.answer r j.service).2, j.visits ++ [⟨caller, r, j.service.change? r⟩]⟩

/-- **The service with its journal**, as one of the callers reaches it. -/
def backend (caller : Nat) (refusal : Option ServiceError) : Backend Journal where
  connect secret j := (((InMemory.backend refusal).connect secret j.service).1, j)
  call r j := (.atOnce (InMemory.answer r j.service).1, j.record caller r)
  wait _ j := j
  interrupted _ := false

@[simp] theorem service_record (i : Nat) (r : Request) (j : Journal) :
    (j.record i r).service = (InMemory.answer r j.service).2 := rfl

@[simp] theorem visits_record (i : Nat) (r : Request) (j : Journal) :
    (j.record i r).visits = j.visits ++ [⟨i, r, j.service.change? r⟩] := rfl

@[simp] theorem changes_record (i : Nat) (r : Request) (j : Journal) :
    (j.record i r).changes = j.changes ++ (j.service.change? r).toList := by
  unfold changes
  rw [visits_record, List.filterMap_append]
  cases j.service.change? r <;> simp

/-- An end of a question, in another state. -/
def projected {A : Type} : Program.Outcome (World Journal) A → Program.Outcome (World InMemory) A
  | .answered a w => .answered a (w.within w.state.service)
  | .stuck w => .stuck (w.within w.state.service)

/-- A journal belongs to the service that it is about. -/
def About (j : Journal) (m : InMemory) : Prop := j.service = m

theorem projected_of_agree {A : Type} {o : Program.Outcome (World Journal) A}
    {o' : Program.Outcome (World InMemory) A} (h : o.Agree (World.Agree About) o') :
    projected o = o' := by
  have hworld {v : World Journal} {w : World InMemory} (hw : World.Agree About v w) :
      v.within v.state.service = w := by
    obtain ⟨hnow, hstate, hcontacts, hmeasures⟩ := hw
    unfold World.within
    rw [hnow, hcontacts, hmeasures, show v.state.service = w.state from hstate]
  cases h with
  | answered a hw => rw [projected, hworld hw]
  | stuck hw => rw [projected, hworld hw]

theorem backend_agrees (i : Nat) (refusal : Option ServiceError) :
    (backend i refusal).Agrees (InMemory.backend refusal) (fun _ => True) About where
  connect := by
    rintro secret j m - rfl
    exact ⟨rfl, rfl⟩
  call := by
    rintro r j m - rfl
    exact ⟨rfl, rfl⟩
  wait _ _ _ h := h
  interrupted _ _ _ := rfl

/-- **The journal changes nothing**: without it, every question is answered as by the service. -/
theorem handler_service (i : Nat) (refusal : Option ServiceError) (cancelAt : Option Nat) (q : Ask)
    (w : World Journal) :
    projected ((backend i refusal).handler cancelAt q w) =
      (InMemory.backend refusal).handler cancelAt q (w.within w.state.service) :=
  have hw : World.Agree About w (w.within w.state.service) := ⟨rfl, rfl, rfl, rfl⟩
  projected_of_agree (Backend.handler_agree (backend_agrees i refusal) hw q fun _ _ => trivial)

/-- **A question** is not noticed by the service, or it is written down. -/
theorem state_of_handler (i : Nat) (refusal : Option ServiceError) (cancelAt : Option Nat) (q : Ask)
    (w : World Journal) :
    ((backend i refusal).handler cancelAt q w).state.state = w.state ∨
      ∃ r ∈ q.request?,
        ((backend i refusal).handler cancelAt q w).state.state = w.state.record i r := by
  rcases (backend i refusal).handler_effect cancelAt q w with
    ⟨-, hs | ⟨ms, hs⟩⟩ | ⟨secret, -, -, hs⟩ | ⟨r, hr, -, hs⟩
  · exact .inl hs
  · exact .inl hs
  · exact .inl hs
  · exact .inr ⟨r, hr, hs⟩

/-! ### What was recorded -/

/-- **Calls of some kind were recorded**, by anyone and in any order. -/
def Recorded (P : Nat → Request → Prop) : Journal → Journal → Prop :=
  Relation.ReflTransGen fun j j' => ∃ i r, P i r ∧ j' = j.record i r

namespace Recorded

variable {P P' : Nat → Request → Prop}

theorem refl (j : Journal) : Recorded P j j := Relation.ReflTransGen.refl

theorem one (h : P i r) (j : Journal) : Recorded P j (j.record i r) := .single ⟨i, r, h, rfl⟩

theorem trans {j'' : Journal} (h : Recorded P j j') (h' : Recorded P j' j'') : Recorded P j j'' :=
  Relation.ReflTransGen.trans h h'

theorem mono (hP : ∀ i r, P i r → P' i r) (h : Recorded P j j') : Recorded P' j j' :=
  Relation.ReflTransGen.mono (fun _ _ ⟨i, r, hr, he⟩ => ⟨i, r, hP i r hr, he⟩) _ _ h

/-- **What each call keeps, all of them keep.** -/
theorem keeps {I : Journal → Prop} (hI : ∀ i r j, P i r → I j → I (j.record i r))
    (h : Recorded P j j') (hj : I j) : I j' := by
  induction h with
  | refl => exact hj
  | tail _ hstep ih =>
    obtain ⟨i, r, hr, rfl⟩ := hstep
    exact hI i r _ hr ih

end Recorded

end Journal

end GceMachines
