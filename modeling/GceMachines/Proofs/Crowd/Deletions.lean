import GceMachines.Proofs.Crowd.Walks
import GceMachines.Proofs.InMemory.Coherence

/-!
# Attempts to delete machines

Of several callers that delete machines at the same time, each searches for its machine first. One
that finds it has it deleted, by its own deletion or because it vanished in between. One that does
not find it reports so, and then the machine is gone or was missed.

* `DeletionEnds`: what a deletion among others establishes.
* `secure_delete`, `deletions_settle`: it comes to such an end, and all of them do.
-/

namespace GceMachines

open InMemory (Quiet notThere)
open Journal (Meanwhile Around Recorded)
open Lifecycle

/-! ### Deletions on a service that nothing disturbs -/

namespace InMemory

variable {size k : Nat} {m : InMemory} {target : MachineId}

theorem Quiet.delete_missing (h : m.Quiet size k) (hn : m.instances.contains target = false) :
    (m.delete target).1 = .error (notThere target) := by
  unfold delete
  dsimp only
  rw [h.noFailures, hn, if_neg Bool.false_ne_true]

theorem Quiet.change?_delete_missing (h : m.Quiet size k)
    (hn : m.instances.contains target = false) : m.change? (.delete target) = none := by
  simp only [change?, h.delete_missing hn]

theorem Quiet.change?_delete_there (h : m.Quiet size k)
    (hthere : m.instances.contains target = true) :
    ∃ op ch, (m.delete target).1 = .ok op ∧ m.change? (.delete target) = some ch ∧
      ch.operation = op.name := by
  obtain ⟨op, m', hdel⟩ := h.delete_there hthere
  refine ⟨op, ⟨.deletion, target, op.name, m.nextOutcome⟩, by rw [hdel], ?_, rfl⟩
  simp only [change?, hdel]

end InMemory

variable {as : List Attempt} {a : Attempt} {size k i : Nat} {m : InMemory} {j j' : Journal}
  {t : MachineId} {w : World Journal} {r : Except MachineError String}

/-! ### One deletion among others -/

/-- **What a deletion among others establishes**: the machine is gone, or nothing of it was accepted
because the search did not find the machine. -/
def DeletionEnds (size : Nat) (m : InMemory) (t : MachineId) (i : Nat)
    (r : Except MachineError String) (j : Journal) : Prop :=
  (r = .ok t.text ∧ j.service.instances.get? t = none) ∨
    r = .error (.notFound t.name) ∧ j.changesOf i = [] ∧ Unfound size m i t j

/-- **An attempt finds its machine** in a store: it is there with the markers of the attempt's
specification, and nothing disturbs a search for it. -/
structure Attempt.Finds (size looks : Nat) (m : InMemory) (a : Attempt) : Prop where
  searchable : m.Searchable size looks a.limits.pages
  complete : (Markers.ofTags a.spec.tags).complete? ≠ none
  holds : m.Holds a.target.project a.spec a.target.name

theorem Asking.insertsNothing {i : Nat} {r : Request} (h : Asking .deletion as i r) :
    r.InsertsNothing := by
  obtain ⟨a, -, hr⟩ := h
  intro t he
  cases hr _ he

theorem DeletionEnds.around (hj : Around (Asking .deletion as) i Request.Reads j j')
    (h : DeletionEnds size m t i r j) : DeletionEnds size m t i r j' := by
  have hshrinks : Shrinks j j' := hj.shrinks fun _ _ h => h.insertsNothing
  rcases h with ⟨hr, hnone⟩ | ⟨hr, hof, hunfound⟩
  · exact .inl ⟨hr, Journal.absent_of_recorded (fun _ _ hi => hi t) hshrinks hnone⟩
  · exact .inr ⟨hr, (Journal.changesOf_of_around hj).trans hof, hunfound.recorded hshrinks⟩

/-- The plan of an attempt to delete a machine. -/
def Attempt.deletion (a : Attempt) : Plan (Except MachineError String) :=
  Lifecycle.delete a.limits a.target.name a.spec a.secret

theorem Attempt.deletion_calls (ha : as[i]? = some a) (hr : a.Ready k) :
    a.deletion.Calls (Asking .deletion as i) := by
  refine Calls.counted _ (calls_entered hr.project_eq ?_)
  refine (Calls.discover fun token => ⟨a, ha, nofun⟩).bindOk fun found => ?_
  split
  · trivial
  · refine ⟨calls_of_request?_eq_some rfl ⟨a, ha, fun x hx => ?_⟩, fun reply => ?_⟩
    · obtain rfl := Option.some.inj hx
      rw [hr.zone_eq]
    · match reply with
      | .error e =>
        dsimp only
        split <;> trivial
      | .ok op => exact Calls.finish ⟨a, ha, nofun⟩ a.limits

theorem DeletionEnds.vanished (hq : j.service.Quiet size k)
    (hgone : j.service.instances.contains t = false) :
    DeletionEnds size m t i (.ok t.text) (j.record i (.delete t)) := by
  refine .inl ⟨rfl, ?_⟩
  have hu := InMemory.unmade_of_change? (hq.change?_delete_missing hgone)
  rw [Journal.service_record, hu.instances_eq]
  exact SortedMap.contains_eq_false_iff.mp hgone

theorem DeletionEnds.accepted {ch : Change} (hq : j.service.Quiet size k)
    (hchange : j.service.change? (.delete t) = some ch) :
    DeletionEnds size m t i (.ok t.text) (j.record i (.delete t)) := by
  obtain ⟨hasks, hout⟩ := InMemory.asks?_of_change? hchange
  obtain ⟨hkind, htarget⟩ := Prod.ext_iff.mp (Option.some.inj hasks)
  have herased := (InMemory.made_of_change? hchange).erased hkind.symm (hout.trans hq.nextOutcome)
  refine .inl ⟨rfl, ?_⟩
  rw [Journal.service_record, herased, show ch.target = t from htarget.symm]
  exact SortedMap.get?_erase_self

/-- **The deletion of a machine that was found** is accepted and waited for, or the machine has
vanished. -/
theorem secure_removal {limits : Limits} (hq : w.state.service.Quiet size k)
    (hin : max 1 k * limits.poll.intervalMs < limits.poll.timeoutMs)
    {next : Except ServiceError Operation → Plan (Except MachineError String)}
    (hgone : ∀ e, e.isNotFound = true → next (.error e) = Plan.succeed t.text)
    (haccepted : ∀ op, next (.ok op) = finish limits t op) :
    Secure (Asking .deletion as) i (fun r w => DeletionEnds size m t i r w.state)
      (.ask (.call (.delete t)) next) (4 * max 1 k + 2 + 1) w := by
  intro j hj
  have hq' := quiet_of_recorded hj hq
  cases hthere : j.service.instances.contains t with
  | false =>
    obtain ⟨w₁, hcall, hsame⟩ := exists_called (i := i) (w := w.within j)
      (show (InMemory.answer (.delete t) j.service).1 = some (.error (notThere t)) from
        congrArg some (hq'.delete_missing hthere))
    refine ⟨_, w₁, hcall, ?_⟩
    rw [hgone _ rfl]
    exact fun j' hj' =>
      DeletionEnds.around hj'.around (hsame ▸ DeletionEnds.vanished hq' hthere)
  | true =>
    obtain ⟨op, ch, hdel, hchange, hop⟩ := hq'.change?_delete_there hthere
    obtain ⟨w₁, hcall, hsame⟩ := exists_called (i := i) (w := w.within j)
      (show (InMemory.answer (.delete t) j.service).1 = some (.ok op) from congrArg some hdel)
    have hfinish : Secure (Asking .deletion as) i _ (finish limits t op) (4 * max 1 k + 2) w₁ :=
      secure_accepted hq' hchange hop hsame hin
    refine ⟨_, w₁, hcall, ?_⟩
    rw [haccepted]
    refine hfinish.imp fun r w' => ?_
    rintro ⟨rfl, haround⟩
    exact DeletionEnds.around haround (hsame ▸ DeletionEnds.accepted hq' hchange)

theorem Attempt.Finds.owns (h : a.Finds size k m) (hzone : a.spec.zone = a.target.zone)
    {inst : Instance} (hi : m.instances.get? a.target = some inst) :
    Owns a.spec.tags a.target.name inst := by
  obtain ⟨inst', hi', hmark⟩ := h.holds
  rw [hzone, hi] at hi'
  cases hi'
  exact ⟨(m.named _ (SortedMap.get?_eq_some_iff.mp hi)).symm, hmark⟩

/-- **A deletion among others** comes to its end. -/
theorem secure_delete (hr : a.Ready k) (hf : a.Finds size k m) (hw : Shrunk size k m w.state)
    (hnone : w.state.changesOf i = []) :
    Secure (Asking .deletion as) i (fun r w => DeletionEnds size m a.target i r w.state) a.deletion
      (a.limits.pages + 4 * max 1 k + 6) w := by
  have hP : ∀ i r, Asking .deletion as i r → r.InsertsNothing := fun _ _ h => h.insertsNothing
  rw [show a.limits.pages + 4 * max 1 k + 6 =
    1 + (a.limits.pages + 1 + (4 * max 1 k + 2 + 1)) + 1 by omega]
  refine Secure.counted (fun r j j' hj h => h.around hj.around) ?_
  refine (secure_enter hr.project_eq).bindOk fun p w₁ => ?_
  rintro ⟨rfl, hj⟩
  have hw₁ : Shrunk size k m w₁.state := hw.recorded (hj.around.shrinks hP)
  have hnone₁ := (Journal.changesOf_of_around hj.around).trans hnone
  have hsearch : Secure (Asking .deletion as) i (Searched (Asking .deletion as) size m i a.target
      w₁.state) (discover a.limits.pages a.target.project a.target.zone a.spec.tags
        (some a.target.name)) (a.limits.pages + 1) w₁ :=
    secure_discover hP hf.complete hf.searchable.size_lt hf.searchable.room
      (fun _ => hf.owns hr.zone_eq) hw₁ hf.searchable.pages_gt
  rw [hr.zone_eq]
  refine hsearch.bindOk fun found w₂ => ?_
  rintro ⟨haround, hempty⟩
  cases hfound : found.isEmpty with
  | true =>
    rw [if_pos rfl]
    intro j hj
    refine DeletionEnds.around hj.around (.inr ⟨rfl, ?_, hempty hfound⟩)
    exact (Journal.changesOf_of_around haround).trans hnone₁
  | false =>
    rw [if_neg Bool.false_ne_true]
    have hw₂ : Shrunk size k m w₂.state := hw₁.recorded (haround.shrinks hP)
    refine secure_removal (t := a.target) hw₂.quiet hr.inTime (fun e he => ?_) fun op => rfl
    dsimp only
    rw [if_pos he]

/-- **Deletions that begin together** all come to their ends. -/
theorem deletions_settle (hq : m.Quiet size k) (hr : ∀ a ∈ as, a.Ready k ∧ a.Finds size k m)
    (schedule : List Nat) :
    (∀ i a, as[i]? = some a → a.limits.pages + 4 * max 1 k + 6 ≤ schedule.count i →
      ∃ r, ((attempts m Attempt.deletion as).run schedule).result? i = some r) ∧
    (∀ i a r, as[i]? = some a →
      ((attempts m Attempt.deletion as).run schedule).result? i = some r →
      DeletionEnds size m a.target i r ((attempts m Attempt.deletion as).run schedule).state) ∧
    Attempted .deletion as size k m ((attempts m Attempt.deletion as).run schedule).state ∧
    Shrunk size k m ((attempts m Attempt.deletion as).run schedule).state := by
  have hsecure (i : Nat) (a : Attempt) (ha : as[i]? = some a) :
      a.deletion.Calls (Asking .deletion as i) ∧
        Secure (Asking .deletion as) i (fun r w => DeletionEnds size m a.target i r w.state)
          a.deletion (a.limits.pages + 4 * max 1 k + 6) ⟨a.start, ⟨m, []⟩, [], []⟩ := by
    obtain ⟨hready, hfinds⟩ := hr a (List.mem_of_getElem? ha)
    exact ⟨a.deletion_calls ha hready, secure_delete hready hfinds ⟨hq, .refl _⟩ rfl⟩
  obtain ⟨hturns, hends, hrec⟩ := attempts_settle
    (fun a i r j => DeletionEnds size m a.target i r j)
    (fun a => a.limits.pages + 4 * max 1 k + 6) hsecure schedule
  have hstart : Shrunk size k m ⟨m, []⟩ := ⟨hq, .refl _⟩
  exact ⟨hturns, hends, (Attempted.start hq).recorded hrec,
    hstart.recorded (hrec.mono fun _ _ h => h.insertsNothing)⟩

/-! ### What they make of the store -/

/-- **A machine that is not stored as before** is gone, and a deletion of it was accepted for a
caller. -/
theorem get?_of_attempted (hatt : Attempted .deletion as size k m j) (hs : Shrunk size k m j)
    (t : MachineId) :
    j.service.instances.get? t = m.instances.get? t ∨
      j.service.instances.get? t = none ∧
        ∃ i a ch, as[i]? = some a ∧ a.target = t ∧ ch ∈ j.changesOf i := by
  cases hj : j.service.instances.get? t with
  | some inst => exact .inl (hs.get?_eq hj).symm
  | none =>
    cases hm : m.instances.get? t with
    | none => exact .inl rfl
    | some inst =>
      refine .inr ⟨rfl, ?_⟩
      have hbalance := hatt.ledger.balanced t
      have hinsert : j.effects .insertion t = 0 := hatt.effects_other (by decide)
      have hthere : m.instances.contains t = true := by rw [SortedMap.contains, hm]; rfl
      unfold InMemory.stored at hbalance
      rw [hthere, SortedMap.contains_eq_false_iff.mpr hj, hinsert] at hbalance
      have hpos : 0 < j.effects .deletion t := by
        simp only [if_true, Bool.false_eq_true, if_false] at hbalance
        omega
      obtain ⟨ch, hch, haffects⟩ := List.countP_pos_iff.mp hpos
      rw [j.changes_eq_authored, List.mem_map] at hch
      obtain ⟨⟨i, ch⟩, hx, rfl⟩ := hch
      obtain ⟨a, ha, -, htarget, -⟩ := hatt.authored _ hx
      exact ⟨i, a, ch, ha, htarget.symm.trans (of_decide_eq_true haffects).2.1,
        Journal.mem_changesOf.mpr hx⟩

theorem Journal.Overtaken.exists_change (h : j.Overtaken i t) :
    ∃ ch ∈ j.changes, ch.Overtakes t := by
  obtain ⟨v₁, v₂, v₃, hv, -, ⟨ch, hch, ho⟩, -⟩ := h
  have hmem : v₂ ∈ j.visits := hv.subset (.tail _ (.head _))
  exact ⟨ch, List.mem_filterMap.mpr ⟨v₂, hmem, hch⟩, ho⟩

theorem gone_of_unfound (hatt : Attempted .deletion as size k m j) (ht : ∀ a ∈ as, a.target = t)
    (h : Unfound size m i t j) : j.service.instances.get? t = none := by
  refine h.resolve_right fun hmissed => ?_
  obtain ⟨ch, hch, -, -, -, hlt, -⟩ := hmissed.overtaken.exists_change
  obtain ⟨-, -, a, ha, htarget⟩ := hatt.of_mem_changes hch
  rw [htarget, ht a ha] at hlt
  exact String.lt_irrefl _ hlt

/-- **One of them has deleted the machine**, and its deletion is the only one. -/
theorem exists_deleter (hatt : Attempted .deletion as size k m j) (hs : Shrunk size k m j)
    (ht : ∀ a ∈ as, a.target = t) (hthere : m.instances.contains t = true) (hne : as ≠ [])
    {results : Nat → Option (Except MachineError String)}
    (hends : ∀ i < as.length, ∃ r, results i = some r ∧ DeletionEnds size m t i r j) :
    (∃ i < as.length, results i = some (.ok t.text)) ∧
      (∃ ch, j.changes = [ch] ∧ ch.kind = .deletion ∧ ch.target = t) ∧
      j.service.serial = m.serial + 1 ∧ j.service.instances = m.instances.erase t := by
  have hgone : j.service.instances.get? t = none := by
    obtain ⟨r, -, ⟨-, hnone⟩ | ⟨-, -, hunfound⟩⟩ := hends 0 (List.length_pos_iff.mpr hne)
    · exact hnone
    · exact gone_of_unfound hatt ht hunfound
  have hone : j.changes.length = 1 := by
    have hbalance := hatt.ledger.balanced t
    have hinsert : j.effects .insertion t = 0 := hatt.effects_other (by decide)
    unfold InMemory.stored at hbalance
    rw [hthere, SortedMap.contains_eq_false_iff.mpr hgone, hinsert, hatt.effects_eq ht] at hbalance
    simpa using hbalance.symm
  refine ⟨?_, ?_, ?_, ?_⟩
  · rw [j.changes_eq_authored, List.length_map] at hone
    obtain ⟨⟨i, ch⟩, hauthored⟩ := List.length_eq_one_iff.mp hone
    obtain ⟨a, ha, -⟩ := hatt.authored (i, ch) (by rw [hauthored]; exact .head _)
    have hi := (List.getElem?_eq_some_iff.mp ha).1
    refine ⟨i, hi, ?_⟩
    obtain ⟨r, hr, ⟨rfl, -⟩ | ⟨-, hnone, -⟩⟩ := hends i hi
    · exact hr
    · rw [j.changesOf_of_single hauthored, if_pos rfl] at hnone
      cases hnone
  · obtain ⟨ch, hch⟩ := List.length_eq_one_iff.mp hone
    obtain ⟨hkind, -, a, ha, htarget⟩ := hatt.of_mem_changes (hch ▸ List.mem_singleton.mpr rfl)
    exact ⟨ch, hch, hkind, htarget.trans (ht a ha)⟩
  · rw [hatt.ledger.serial_eq, hone]
  · refine SortedMap.eq_of_mem_iff fun ⟨t', inst⟩ => ?_
    rw [← SortedMap.get?_eq_some_iff, ← SortedMap.get?_eq_some_iff]
    by_cases htt : t' = t
    · rw [htt, hgone, SortedMap.get?_erase_self]
    · rw [SortedMap.get?_erase_of_ne htt]
      rcases get?_of_attempted hatt hs t' with hsame | ⟨-, i, a, -, ha, htarget, -⟩
      · rw [hsame]
      · exact absurd (htarget.symm.trans (ht a (List.mem_of_getElem? ha))) htt

end GceMachines
