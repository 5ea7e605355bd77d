import GceMachines.Proofs.Crowd.Creations
import GceMachines.Proofs.Crowd.Deletions

/-!
# Races

Several callers attempt a change at the same time, on a service that nothing disturbs and that
nobody else calls. If all of them attempt it of the same machine, one of them succeeds and the
others are told so. If each deletes a machine of its own, the calls do not disturb each other as
long as a zone is listed on one page. With more pages, a search can miss its machine because another
one was deleted in front of it.

* `race_for_one_machine`: creations of one machine, and deletions of one machine.
* `deletions_of_different_machines`: deletions of a machine each.
-/

namespace GceMachines

open InMemory (Quiet alreadyThere)
open Lifecycle

variable {as : List Attempt} {size k : Nat} {m : InMemory} {t : MachineId}

/-- **All callers are done.** -/
def Crowd.Settled {σ α : Type} (c : Crowd σ α) : Prop :=
  ∀ i < c.callers.length, ∃ a, c.result? i = some a

theorem length_attempts {plan : Attempt → Plan (Except MachineError String)}
    (schedule : List Nat) : ((attempts m plan as).run schedule).callers.length = as.length := by
  rw [Crowd.length_run]
  simp [attempts, Crowd.calling]

/-! ### One machine -/

/-- **Creations of one machine that begin together**, once all are done. -/
theorem creations_of_one (hq : m.Quiet size k) (hne : as ≠ [])
    (hready : ∀ a ∈ as, a.target = t ∧ a.Ready k) (hfree : m.instances.contains t = false)
    {schedule : List Nat} (hdone : ((attempts m Attempt.creation as).run schedule).Settled) :
    ∃ i₀ < as.length, ∀ i < as.length,
      ((attempts m Attempt.creation as).run schedule).result? i =
        some (if i = i₀ then .ok t.text else .error (ofSubmission (alreadyThere t))) := by
  obtain ⟨-, hends, hatt⟩ := creations_settle hq (fun a ha => (hready a ha).2) schedule
  refine exists_creator hatt (fun a ha => (hready a ha).1) hfree hne fun i hi => ?_
  obtain ⟨r, hr⟩ := hdone i (by rw [length_attempts]; exact hi)
  refine ⟨r, hr, ?_⟩
  have hend := hends i _ r (List.getElem?_eq_getElem hi) hr
  rw [(hready _ (List.getElem_mem hi)).1] at hend
  exact hend

/-- **Races for one machine**, whatever the size of the pages and the order of the turns. Of callers
that create the same absent machine, each is done after a number of turns, and once all are, one of
them has created it and every other one is told that it already exists. Of callers that delete the
same machine, which is there with the markers of their specifications, each is done after a number
of turns with the id, or because the machine is not found; once all are, one of them at least has
the id, one deletion was accepted and nothing else, and the machine is gone and no other. -/
theorem race_for_one_machine (hq : m.Quiet size k) (hne : as ≠ [])
    (hready : ∀ a ∈ as, a.target = t ∧ a.Ready k) :
    (m.instances.contains t = false → ∀ schedule : List Nat,
      (∀ i < as.length, 4 * max 1 k + 5 ≤ schedule.count i →
        ∃ r, ((attempts m Attempt.creation as).run schedule).result? i = some r) ∧
      (((attempts m Attempt.creation as).run schedule).Settled →
        ∃ i₀ < as.length, ∀ i < as.length,
          ((attempts m Attempt.creation as).run schedule).result? i =
            some (if i = i₀ then .ok t.text else .error (ofSubmission (alreadyThere t)))) ∧
      (Text.contains t.project missingInZone = false →
        Text.contains t.zone missingInZone = false →
        Text.contains t.name missingInZone = false →
        ofSubmission (alreadyThere t) =
          .remote ("googleapi: Error 409: The resource '" ++ t.path ++ "' already exists"))) ∧
    ((∀ a ∈ as, a.Finds size k m) → ∀ schedule : List Nat,
      (∀ i a, as[i]? = some a → a.limits.pages + 4 * max 1 k + 6 ≤ schedule.count i →
        ∃ r, ((attempts m Attempt.deletion as).run schedule).result? i = some r) ∧
      (∀ i < as.length, ∀ r,
        ((attempts m Attempt.deletion as).run schedule).result? i = some r →
          r = .ok t.text ∨ r = .error (.notFound t.name)) ∧
      (((attempts m Attempt.deletion as).run schedule).Settled →
        (∃ i < as.length,
          ((attempts m Attempt.deletion as).run schedule).result? i = some (.ok t.text)) ∧
        (∃ ch, ((attempts m Attempt.deletion as).run schedule).state.changes = [ch] ∧
          ch.kind = .deletion ∧ ch.target = t) ∧
        ((attempts m Attempt.deletion as).run schedule).state.service.serial = m.serial + 1 ∧
        ((attempts m Attempt.deletion as).run schedule).state.service.instances =
          m.instances.erase t)) := by
  refine ⟨fun hfree schedule => ⟨fun i hi hturns => ?_, creations_of_one hq hne hready hfree,
    ofSubmission_alreadyThere⟩, fun hfinds schedule => ?_⟩
  · obtain ⟨hdone, -⟩ := creations_settle hq (fun a ha => (hready a ha).2) schedule
    exact hdone i _ (List.getElem?_eq_getElem hi) hturns
  · obtain ⟨hdone, hends, hatt, hs⟩ :=
      deletions_settle hq (fun a ha => ⟨(hready a ha).2, hfinds a ha⟩) schedule
    have hend (i : Nat) (hi : i < as.length) (r : Except MachineError String)
        (hr : ((attempts m Attempt.deletion as).run schedule).result? i = some r) :
        DeletionEnds size m t i r ((attempts m Attempt.deletion as).run schedule).state := by
      have hend := hends i _ r (List.getElem?_eq_getElem hi) hr
      rw [(hready _ (List.getElem_mem hi)).1] at hend
      exact hend
    refine ⟨hdone, fun i hi r hr => ?_, fun hsettled => ?_⟩
    · exact (hend i hi r hr).imp And.left And.left
    · have hthere : m.instances.contains t = true := by
        obtain ⟨a, ha⟩ := List.exists_mem_of_ne_nil as hne
        obtain ⟨inst, hi, -⟩ := (hfinds a ha).holds
        rw [(hready a ha).2.zone_eq, (hready a ha).1] at hi
        rw [SortedMap.contains, hi]
        rfl
      refine exists_deleter hatt hs (fun a ha => (hready a ha).1) hthere hne fun i hi => ?_
      obtain ⟨r, hr⟩ := hsettled i (by rw [length_attempts]; exact hi)
      exact ⟨r, hr, hend i hi r hr⟩

/-- Two callers for one machine of the cluster `a`. -/
def pairFor (name : String) : List Attempt :=
  List.replicate 2 ⟨⟨"p", "z", name⟩, ⟨.standard, 4⟩, InMemory.nodeSpec "a", InMemory.keyring, 0⟩

/-- Two callers that have their turns one after the other. -/
def inTurn : List Nat := (List.replicate 16 [0, 1]).flatten

/-- Two callers make a third machine beside those of two clusters, and two delete the first. -/
theorem twoClusters_raced :
    InMemory.twoClusters.Quiet 1 0 ∧
      (∀ name, ∀ a ∈ pairFor name, a.target = ⟨"p", "z", name⟩ ∧ a.Ready 0) ∧
      (∀ a ∈ pairFor "a", a.Finds 1 0 InMemory.twoClusters) ∧
      (∃ i₀ < 2, ∀ i < 2,
        ((attempts InMemory.twoClusters Attempt.creation (pairFor "c")).run inTurn).result? i =
          some (if i = i₀ then .ok "gce:///p/z/c" else .error (.remote ("googleapi: Error 409: " ++
            "The resource 'projects/p/zones/z/instances/c' already exists")))) ∧
      (∃ i < 2, ((attempts InMemory.twoClusters Attempt.deletion (pairFor "a")).run inTurn).result?
        i = some (.ok "gce:///p/z/a")) ∧
      ((attempts InMemory.twoClusters Attempt.deletion (pairFor "a")).run
        inTurn).state.service.instances =
          InMemory.twoClusters.instances.erase ⟨"p", "z", "a"⟩ := by
  have hq : InMemory.twoClusters.Quiet 1 0 := ⟨rfl, rfl, rfl, rfl⟩
  have hp : Secret.project InMemory.keyring = .ok "p" := InMemory.project_keyring
  have hready (name : String) (a : Attempt) (ha : a ∈ pairFor name) :
      a.target = ⟨"p", "z", name⟩ ∧ a.Ready 0 := by
    obtain rfl := List.eq_of_mem_replicate ha
    have hin : max 1 0 * PollConfig.standard.intervalMs < PollConfig.standard.timeoutMs := by decide
    exact ⟨rfl, hp, rfl, hin⟩
  have hfinds (a : Attempt) (ha : a ∈ pairFor "a") : a.Finds 1 0 InMemory.twoClusters := by
    obtain rfl := List.eq_of_mem_replicate ha
    exact ⟨⟨hq, by decide, by decide, by decide⟩, by decide, _, rfl, by decide⟩
  have hne (name : String) : pairFor name ≠ [] := List.cons_ne_nil _ _
  obtain ⟨hcreate, -⟩ := race_for_one_machine hq (hne "c") (hready "c")
  obtain ⟨-, hdelete⟩ := race_for_one_machine hq (hne "a") (hready "a")
  obtain ⟨hdone, hone, htext⟩ := hcreate (by decide) inTurn
  obtain ⟨hdone', -, hone'⟩ := hdelete hfinds inTurn
  have hcounts : ∀ i < 2, 14 ≤ inTurn.count i := by decide
  obtain ⟨i₀, hi₀, hall⟩ := hone fun i hi => by
    rw [length_attempts] at hi
    exact hdone i hi (by have := hcounts i hi; omega)
  obtain ⟨hok, -, -, herased⟩ := hone' fun i hi => by
    rw [length_attempts] at hi
    have ha := List.eq_of_mem_replicate (List.getElem_mem hi)
    exact hdone' i _ (List.getElem?_eq_getElem hi) (by rw [ha]; exact hcounts i hi)
  refine ⟨hq, hready, hfinds, ⟨i₀, hi₀, fun i hi => ?_⟩, hok, herased⟩
  rw [hall i hi, htext (by decide) (by decide) (by decide)]
  rfl

/-! ### A machine each -/

/-- **Who deletes a machine of its own** has deleted it, or has missed it, and then it is stored as
before. -/
theorem DeletionEnds.of_different {i : Nat} {a : Attempt} {j : Journal}
    {r : Except MachineError String} (h : DeletionEnds size m a.target i r j)
    (hatt : Attempted .deletion as size k m j) (hs : Shrunk size k m j)
    (hdistinct : (as.map Attempt.target).Nodup) (ha : as[i]? = some a)
    (hthere : m.instances.get? a.target ≠ none) :
    (r = .ok a.target.text ∧ j.service.instances.get? a.target = none) ∨
      r = .error (.notFound a.target.name) ∧
        j.service.instances.get? a.target = m.instances.get? a.target ∧
        Missed size m i a.target j := by
  refine h.imp_right fun ⟨hr, hnone, hunfound⟩ => ⟨hr, ?_⟩
  rcases get?_of_attempted hatt hs a.target with hsame | ⟨-, i', a', ch, ha', htarget, hch⟩
  · exact ⟨hsame, hunfound.resolve_left (hsame ▸ hthere)⟩
  · -- only the caller itself asks for this deletion, and none of its own was accepted
    have hi : i < (as.map Attempt.target).length := by
      rw [List.length_map]
      exact (List.getElem?_eq_some_iff.mp ha).1
    have hii : i = i' := (List.getElem?_inj hi hdistinct).mp (by
      rw [List.getElem?_map, List.getElem?_map, ha, ha', Option.map_some, Option.map_some, htarget])
    subst hii
    rw [hnone] at hch
    cases hch

/-- **Deletions of a machine each**, whatever the size of the pages and the order of the turns. Each
caller is done after a number of turns, with the id and its machine gone; or the machine is not
found although it is still stored as before, and then its zone has more than one page, and between
two pages that the caller listed, a deletion took effect in front of the machine. All other machines
stay as they were. If every zone is listed on one page, exactly the machines of the callers are gone
in the end, and each caller has the id of its machine. -/
theorem deletions_of_different_machines (hq : m.Quiet size k)
    (hready : ∀ a ∈ as, a.Ready k ∧ a.Finds size k m)
    (hdistinct : (as.map Attempt.target).Nodup) (schedule : List Nat) :
    (∀ i a, as[i]? = some a → a.limits.pages + 4 * max 1 k + 6 ≤ schedule.count i →
      ∃ r, ((attempts m Attempt.deletion as).run schedule).result? i = some r) ∧
    (∀ i a r, as[i]? = some a →
      ((attempts m Attempt.deletion as).run schedule).result? i = some r →
      (r = .ok a.target.text ∧ ((attempts m Attempt.deletion as).run
          schedule).state.service.instances.get? a.target = none) ∨
      r = .error (.notFound a.target.name) ∧
        ((attempts m Attempt.deletion as).run schedule).state.service.instances.get? a.target =
          m.instances.get? a.target ∧
        Missed size m i a.target ((attempts m Attempt.deletion as).run schedule).state) ∧
    (∀ t, (∀ a ∈ as, a.target ≠ t) →
      ((attempts m Attempt.deletion as).run schedule).state.service.instances.get? t =
        m.instances.get? t) ∧
    ((∀ a ∈ as, (m.listingOf a.target).length ≤ size) →
      ((attempts m Attempt.deletion as).run schedule).Settled →
      (∀ i a, as[i]? = some a →
        ((attempts m Attempt.deletion as).run schedule).result? i = some (.ok a.target.text)) ∧
      ∀ t, ((attempts m Attempt.deletion as).run schedule).state.service.instances.get? t =
        if ∃ a ∈ as, a.target = t then none else m.instances.get? t) := by
  obtain ⟨hdone, hends, hatt, hs⟩ := deletions_settle hq hready schedule
  have hend (i : Nat) (a : Attempt) (r : Except MachineError String) (ha : as[i]? = some a)
      (hr : ((attempts m Attempt.deletion as).run schedule).result? i = some r) :=
    (hends i a r ha hr).of_different hatt hs hdistinct ha (by
      obtain ⟨hready, hfinds⟩ := hready a (List.mem_of_getElem? ha)
      obtain ⟨inst, hi, -⟩ := hfinds.holds
      rw [hready.zone_eq] at hi
      rw [hi]
      nofun)
  have hothers (t : MachineId) (ht : ∀ a ∈ as, a.target ≠ t) :
      ((attempts m Attempt.deletion as).run schedule).state.service.instances.get? t =
        m.instances.get? t := by
    refine (get?_of_attempted hatt hs t).resolve_right ?_
    rintro ⟨-, i, a, -, ha, htarget, -⟩
    exact ht a (List.mem_of_getElem? ha) htarget
  refine ⟨hdone, hend, hothers, fun hpage hsettled => ?_⟩
  have hok (i : Nat) (a : Attempt) (ha : as[i]? = some a) :
      ((attempts m Attempt.deletion as).run schedule).result? i = some (.ok a.target.text) ∧
        ((attempts m Attempt.deletion as).run schedule).state.service.instances.get? a.target =
          none := by
    obtain ⟨r, hr⟩ := hsettled i (by
      rw [length_attempts]
      exact (List.getElem?_eq_some_iff.mp ha).1)
    rcases hend i a r ha hr with ⟨rfl, hnone⟩ | ⟨-, -, hmissed⟩
    · exact ⟨hr, hnone⟩
    · exact absurd hmissed.morePages (Nat.not_lt.mpr (hpage a (List.mem_of_getElem? ha)))
  refine ⟨fun i a ha => (hok i a ha).1, fun t => ?_⟩
  split
  · next ht =>
    obtain ⟨a, ha, rfl⟩ := ht
    obtain ⟨i, hi⟩ := List.mem_iff_getElem?.mp ha
    exact (hok i a hi).2
  · next ht => exact hothers t fun a ha he => ht ⟨a, ha, he⟩

/-- Two machines of one cluster in a zone, on pages of a size. -/
def nodesOnPages (size : Nat) : InMemory :=
  ((InMemory.new size 0).addTagged "p" "z" "a" (InMemory.nodeSpec "a").tags).addTagged "p" "z" "b"
    (InMemory.nodeSpec "a").tags

/-- A caller for each of them. -/
def oneForEach : List Attempt :=
  ["a", "b"].map fun name =>
    ⟨⟨"p", "z", name⟩, ⟨.standard, 4⟩, InMemory.nodeSpec "a", InMemory.keyring, 0⟩

theorem nodesOnPages_quiet (hpos : 0 < size) : (nodesOnPages size).Quiet size 0 :=
  ⟨rfl, rfl, Nat.max_eq_right hpos, rfl⟩

theorem oneForEach_ready (hpos : 0 < size) (hsize : size < Nat.pow 2 64) (a : Attempt)
    (ha : a ∈ oneForEach) : a.Ready 0 ∧ a.Finds size 0 (nodesOnPages size) := by
  have hp : Secret.project InMemory.keyring = .ok "p" := InMemory.project_keyring
  have hin : max 1 0 * PollConfig.standard.intervalMs < PollConfig.standard.timeoutMs := by decide
  have hsame : (nodesOnPages size).instances = (nodesOnPages 1).instances := rfl
  have hcount : (nodesOnPages 1).instances.size = 2 := by decide
  have hholds : ∀ name ∈ ["a", "b"], (nodesOnPages 1).Holds "p" (InMemory.nodeSpec "a") name := by
    simp only [List.forall_mem_cons, List.not_mem_nil, false_imp_iff, implies_true, and_true]
    exact ⟨⟨_, rfl, by decide⟩, _, rfl, by decide⟩
  obtain ⟨name, hname, rfl⟩ := List.mem_map.mp ha
  refine ⟨⟨hp, rfl, hin⟩, ⟨⟨nodesOnPages_quiet hpos, hsize, ?_, ?_⟩, ?_,
    (InMemory.holds_congr hsame).mpr (hholds name hname)⟩⟩
  · rw [hsame, hcount]
    decide
  · rw [hsame, hcount]
    show 2 < 4
    decide
  · show (Markers.ofTags (InMemory.nodeSpec "a").tags).complete? ≠ none
    decide

/-- On one page, both are deleted. -/
theorem onePage_deleted :
    (nodesOnPages 2).Quiet 2 0 ∧
      (∀ a ∈ oneForEach, a.Ready 0 ∧ a.Finds 2 0 (nodesOnPages 2)) ∧
      (oneForEach.map Attempt.target).Nodup ∧
      ((attempts (nodesOnPages 2) Attempt.deletion oneForEach).run inTurn).result? 0 =
        some (.ok "gce:///p/z/a") ∧
      ((attempts (nodesOnPages 2) Attempt.deletion oneForEach).run inTurn).result? 1 =
        some (.ok "gce:///p/z/b") ∧
      ∀ name ∈ ["a", "b"], ((attempts (nodesOnPages 2) Attempt.deletion oneForEach).run
        inTurn).state.service.instances.get? ⟨"p", "z", name⟩ = none := by
  have hq := nodesOnPages_quiet (show 0 < 2 by decide)
  have hready := oneForEach_ready (show 0 < 2 by decide) (by decide)
  have hdistinct : (oneForEach.map Attempt.target).Nodup := by decide
  obtain ⟨hdone, -, -, hall⟩ := deletions_of_different_machines hq hready hdistinct inTurn
  have hcounts : ∀ i < 2, 14 ≤ inTurn.count i := by decide
  have hpage : ∀ a ∈ oneForEach, ((nodesOnPages 2).listingOf a.target).length ≤ 2 := by decide
  have hpages : ∀ a ∈ oneForEach, a.limits.pages = 4 := by decide
  obtain ⟨hok, hgone⟩ := hall hpage fun i hi => by
    rw [length_attempts] at hi
    refine hdone i _ (List.getElem?_eq_getElem hi) ?_
    rw [hpages _ (List.getElem_mem hi)]
    exact hcounts i hi
  refine ⟨hq, hready, hdistinct, hok 0 _ rfl, hok 1 _ rfl, fun name hname => ?_⟩
  rw [hgone, if_pos]
  exact ⟨_, List.mem_map_of_mem hname, rfl⟩

/-- The failure that a result reports. -/
def reported? {α : Type} : Except MachineError α → Option MachineError
  | .error e => some e
  | .ok _ => none

/-- **On pages of one machine, the second is missed**, though it is there all the time: its caller
lists the first page, the first machine is deleted, and the second page begins behind the second
machine. -/
theorem twoPages_missed :
    (nodesOnPages 1).Quiet 1 0 ∧
      (∀ a ∈ oneForEach, a.Ready 0 ∧ a.Finds 1 0 (nodesOnPages 1)) ∧
      (oneForEach.map Attempt.target).Nodup ∧
      ((attempts (nodesOnPages 1) Attempt.deletion oneForEach).run
        [1, 1, 0, 0, 0, 1, 1, 1]).result? 1 = some (.error (.notFound "b")) ∧
      ((attempts (nodesOnPages 1) Attempt.deletion oneForEach).run
        [1, 1, 0, 0, 0, 1, 1, 1]).state.service.instances.contains ⟨"p", "z", "b"⟩ = true := by
  have hresult : (((attempts (nodesOnPages 1) Attempt.deletion oneForEach).run
      [1, 1, 0, 0, 0, 1, 1, 1]).result? 1).map reported? = some (some (.notFound "b")) := by
    decide +kernel
  refine ⟨nodesOnPages_quiet (by decide), oneForEach_ready (by decide) (by decide), by decide, ?_,
    by decide +kernel⟩
  obtain ⟨r, hr, he⟩ := Option.map_eq_some_iff.mp hresult
  cases r with
  | ok id => cases he
  | error e =>
    obtain rfl := Option.some.inj he
    exact hr

end GceMachines
