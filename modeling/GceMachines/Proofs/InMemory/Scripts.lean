import GceMachines.Proofs.InMemory.History

/-!
# Scripts of the service in memory

A failure that is scripted for a kind of call is given out by a call of that kind, once and in its
turn, before the service looks at what the call is about; a look that hangs leaves it where it is.
Errors that are scripted for operations are taken by changes that are accepted, and by nothing
else. A call that is refused changes nothing but its own count and its own script.

* `handed?`, `spent?`: the failure that a call is answered with out of its script, and the errors
  that an accepted change takes for its operation.
* `failures_upon`, `operation_upon`: what a single happening does to the scripts.
* `Handles`: how a call deals with the scripts.
* `scripts_delivered`: all of it, in every history.
-/

namespace GceMachines

namespace Happening

/-- The failure that is scripted for a kind of call. -/
def scripts? (k : CallKind) : Happening → Option ServiceError
  | failNext k' e => if k' = k then some e else none
  | _ => none

/-- The errors that are scripted for an operation. -/
def scriptsOperation? : Happening → Option OperationError
  | failNextOperation errors => some ⟨errors⟩
  | _ => none

end Happening

namespace InMemory

variable {m : InMemory} {r : Request} {e : ServiceError} {k : CallKind}

/-- The failure that a call is answered with. -/
def failure? {α : Type} : Option (Except ServiceError α) → Option ServiceError
  | some (.error e) => some e
  | _ => none

/-- **The failure that is handed out**: what a call of a kind is answered with that finds failures
scripted for it. -/
def handed? (k : CallKind) (m : InMemory) : Happening → Option ServiceError
  | .call r => if r.kind? = some k ∧ m.failures.of k ≠ [] then failure? (answer r m).1 else none
  | _ => none

/-- **The errors that are spent**: those with which the operation of an accepted change will
end. -/
def spent? (m : InMemory) : Happening → Option OperationError
  | .call r => (m.change? r).bind Change.outcome
  | _ => none

/-! ### Counts and scripts of a call -/

theorem scriptFor_of_kind (hk : r.kind? = some k) : m.scriptFor r = m.failures.of k := by
  unfold scriptFor
  rw [hk]

theorem not_scripted (hs : m.scriptFor r = []) :
    ¬ (r.kind? = some k ∧ m.failures.of k ≠ []) := by
  rintro ⟨hk, hne⟩
  exact hne (scriptFor_of_kind hk ▸ hs)

@[simp] theorem failures_counted (m : InMemory) (r : Request) :
    (m.counted r).failures = m.failures := by
  unfold counted
  cases r.kind? <;> rfl

theorem of_failures_refused (m : InMemory) (r : Request) (k : CallKind) :
    (m.refused r).failures.of k =
      if r.kind? = some k then (m.failures.of k).tail else m.failures.of k := by
  unfold refused
  cases hk : r.kind? with
  | none => simp
  | some k' =>
    dsimp only
    rw [ScriptedFailures.of_set]
    by_cases h : k' = k
    · subst h
      simp
    · rw [if_neg h, if_neg (by simpa using h)]

theorem operation_failures_refused (m : InMemory) (r : Request) :
    (m.refused r).failures.operation = m.failures.operation := by
  unfold refused
  cases r.kind? with
  | none => rfl
  | some k => exact ScriptedFailures.operation_set

theorem change?_of_error (h : (answer r m).1 = some (.error e)) : m.change? r = none := by
  cases r with
  | get | list | operation => rfl
  | insert project zone body =>
    have h : (m.insert project zone body).1 = .error e := Option.some.inj h
    simp only [change?, h]
  | delete target =>
    have h : (m.delete target).1 = .error e := Option.some.inj h
    simp only [change?, h]

theorem change?_of_hangs (h : m.Hangs r) : m.change? r = none := by
  cases r with
  | operation => rfl
  | insert | delete | get | list => cases h.2

theorem change?_of_ok {a : r.Reply} (h : (answer r m).1 = some (.ok a)) :
    (m.change? r).isSome = r.isMutation ∧ (m.change? r).bind Change.outcome =
      if r.isMutation then m.nextOutcome else none := by
  cases r with
  | get | list | operation => exact ⟨rfl, rfl⟩
  | insert project zone body =>
    have h : (m.insert project zone body).1 = .ok a := Option.some.inj h
    simp [change?, h, Request.isMutation]
  | delete target =>
    have h : (m.delete target).1 = .ok a := Option.some.inj h
    simp [change?, h, Request.isMutation]

/-! ### One happening -/

/-- **A single happening conserves a script**: what is scripted goes to its end, and what is handed
out comes from its front. -/
theorem failures_upon (k : CallKind) (m : InMemory) (h : Happening) :
    m.failures.of k ++ (h.scripts? k).toList =
      (m.handed? k h).toList ++ (m.upon h).failures.of k := by
  cases h with
  | failNext k' e =>
    show _ = (m.failures.set (m.failures.of k' ++ [e]) k').of k
    rw [ScriptedFailures.of_set, Happening.scripts?]
    by_cases hk : k' = k
    · rw [if_pos hk, if_pos hk, hk]
      rfl
    · rw [if_neg hk, if_neg hk]
      exact List.append_nil _
  | failNextOperation | hangPolls | add | configure => exact List.append_nil _
  | call r =>
    rw [show (Happening.call r).scripts? k = none from rfl, Option.toList_none, List.append_nil]
    show _ = (m.handed? k (.call r)).toList ++ (answer r m).2.failures.of k
    rw [handed?]
    rcases m.answer_cases r with
      ⟨-, ha⟩ | ⟨-, ⟨e, es, hs, ha⟩ | ⟨hs, ⟨e, -, ha⟩ | ⟨-, a, ha⟩⟩⟩
    · have hnone : failure? (answer r m).1 = none := by
        rw [ha]
        rfl
      rw [hnone, ite_self, ha, failures_counted]
      rfl
    · rw [ha, of_failures_refused]
      by_cases hk : r.kind? = some k
      · rw [scriptFor_of_kind hk] at hs
        rw [if_pos hk, if_pos ⟨hk, by simp [hs]⟩, hs]
        rfl
      · rw [if_neg hk, if_neg fun h => hk h.1]
        rfl
    · rw [if_neg (not_scripted hs), ha, refused_of_unscripted hs, failures_counted]
      rfl
    · rw [if_neg (not_scripted hs), failures_of_accepted ha]
      cases k <;> rfl

/-- **A single happening conserves the errors that are scripted for operations.** -/
theorem operation_upon (m : InMemory) (h : Happening) :
    m.failures.operation.map OperationError.mk ++ h.scriptsOperation?.toList =
      (m.spent? h).toList ++ (m.upon h).failures.operation.map OperationError.mk := by
  cases h with
  | failNextOperation errors =>
    show _ = (m.failures.operation ++ [errors]).map OperationError.mk
    rw [List.map_append]
    rfl
  | failNext k e =>
    show _ = (m.failures.set (m.failures.of k ++ [e]) k).operation.map OperationError.mk
    rw [ScriptedFailures.operation_set]
    exact List.append_nil _
  | hangPolls | add | configure => exact List.append_nil _
  | call r =>
    show _ ++ [] = ((m.change? r).bind Change.outcome).toList ++
      (answer r m).2.failures.operation.map OperationError.mk
    rw [List.append_nil]
    rcases m.answer_cases r with
      ⟨hh, ha⟩ | ⟨-, ⟨e, es, -, ha⟩ | ⟨-, ⟨e, -, ha⟩ | ⟨-, a, ha⟩⟩⟩
    · rw [change?_of_hangs hh, ha, failures_counted]
      rfl
    · rw [change?_of_error (congrArg Prod.fst ha), ha, operation_failures_refused]
      rfl
    · rw [change?_of_error (congrArg Prod.fst ha), ha, operation_failures_refused]
      rfl
    · rw [(change?_of_ok ha).2, failures_of_accepted ha]
      cases r.isMutation with
      | false => rfl
      | true =>
        unfold nextOutcome
        cases m.failures.operation <;> rfl

/-! ### One call -/

/-- **How a call deals with the scripts.** -/
structure Handles (m : InMemory) (r : Request) : Prop where
  /-- A look that hangs is counted and takes no failure. -/
  hanging : m.Hangs r → answer r m = (none, m.counted r)
  /-- A failure that is scripted for the call is given out, whatever the call is about. -/
  scripted : ∀ k e es, ¬ m.Hangs r → r.kind? = some k → m.failures.of k = e :: es →
    (answer r m).1 = some (.error e)
  /-- Without one, the call is refused on the service's own grounds or accepted. -/
  unscripted : ¬ m.Hangs r → m.scriptFor r = [] →
    (∀ e, (answer r m).1 = some (.error e) ↔ m.Refuses r e) ∧
      ((∀ e, ¬ m.Refuses r e) → ∃ a, (answer r m).1 = some (.ok a))
  /-- A call that is refused leaves everything but its own count and its own script. -/
  refusal : ∀ e, (answer r m).1 = some (.error e) → (answer r m).2 = m.refused r
  /-- No errors are spent on a call that is refused, or asks for no change. -/
  spares : (∃ e, (answer r m).1 = some (.error e)) ∨ r.isMutation = false →
    m.spent? (.call r) = none
  /-- A change that is accepted spends the next errors on its own operation. -/
  accepted : ∀ a, (answer r m).1 = some (.ok a) → r.isMutation = true →
    ∃ ch o, m.change? r = some ch ∧ ch.outcome = m.nextOutcome ∧
      (answer r m).2.operations.get? ch.operation = some o ∧ o.outcome = m.nextOutcome

theorem refused_of_error (h : (answer r m).1 = some (.error e)) : (answer r m).2 = m.refused r := by
  rcases m.answer_cases r with
    ⟨-, ha⟩ | ⟨-, ⟨e', es, -, ha⟩ | ⟨-, ⟨e', -, ha⟩ | ⟨-, a, ha⟩⟩⟩
  · rw [ha] at h
    cases h
  · rw [ha]
  · rw [ha]
  · rw [ha] at h
    cases h

theorem error_iff_refuses (hn : ¬ m.Hangs r) (hs : m.scriptFor r = []) :
    (answer r m).1 = some (.error e) ↔ m.Refuses r e := by
  refine ⟨fun h => ?_, fun h => congrArg Prod.fst (answer_of_refuses hn hs h)⟩
  by_cases hr : ∃ e', m.Refuses r e'
  · obtain ⟨e', he'⟩ := hr
    rw [answer_of_refuses hn hs he'] at h
    cases h
    exact he'
  · obtain ⟨a, ha⟩ := answer_of_accepts hn hs (not_exists.mp hr)
    rw [ha] at h
    cases h

theorem spent?_of_reading (h : r.isMutation = false) : m.spent? (.call r) = none := by
  cases r with
  | get | list | operation => rfl
  | insert | delete => cases h

/-- **An accepted change** spends the next errors on its operation. -/
theorem exists_change_of_ok {a : r.Reply} (h : (answer r m).1 = some (.ok a))
    (hr : r.isMutation = true) :
    ∃ ch o, m.change? r = some ch ∧ ch.outcome = m.nextOutcome ∧
      (answer r m).2.operations.get? ch.operation = some o ∧ o.outcome = m.nextOutcome := by
  obtain ⟨ch, hch⟩ := Option.isSome_iff_exists.mp ((change?_of_ok h).1.trans hr)
  have hmade := made_of_change? hch
  obtain ⟨o, hentry, -, -, hoperations⟩ := hmade.started
  refine ⟨ch, o, hch, hmade.outcome_eq, ?_, hentry.outcome_eq.trans hmade.outcome_eq⟩
  rw [hoperations]
  exact SortedMap.get?_insert_self

/-- **Every call** deals with the scripts like this. -/
theorem handles (m : InMemory) (r : Request) : m.Handles r where
  hanging := answer_of_hangs
  scripted _ _ _ hn hk hs := congrArg Prod.fst
    (answer_of_scripted hn ((scriptFor_of_kind hk).trans hs))
  unscripted hn hs := ⟨fun _ => error_iff_refuses hn hs, answer_of_accepts hn hs⟩
  refusal _ := refused_of_error
  spares := by
    rintro (⟨e, h⟩ | h)
    · rw [spent?, change?_of_error h]
      rfl
    · exact spent?_of_reading h
  accepted _ := exists_change_of_ok

/-- **Scripts are delivered in order, once, and atomically**, in every history of every service. The
failures that were scripted for a kind of call at the beginning or in the course of the history are,
in their order, those that calls of this kind were answered with out of the script, and then those
that are left. The errors that were scripted for operations are those that accepted changes spent on
their operations, and then those that are left. And whatever has happened before, a call takes what
is scripted for its kind before it is looked at, is refused or accepted for itself otherwise, and
changes nothing but its own count and its own script when it is refused. -/
theorem scripts_delivered (m : InMemory) (hs : List Happening) :
    (∀ k, m.failures.of k ++ hs.filterMap (Happening.scripts? k) =
      m.gathered (handed? k) hs ++ (m.history hs).failures.of k) ∧
    m.failures.operation.map OperationError.mk ++ hs.filterMap Happening.scriptsOperation? =
      m.gathered spent? hs ++ (m.history hs).failures.operation.map OperationError.mk ∧
    ∀ r, (m.history hs).Handles r :=
  ⟨fun k => conserved (failures_upon k) m hs, conserved operation_upon m hs,
    fun r => (m.history hs).handles r⟩

end InMemory

end GceMachines
