import GceMachines.Proofs.Crowd.Attempts
import GceMachines.Proofs.Lifecycle.Exhaustion

/-!
# Attempts to create one machine

Of several callers that create the same machine at the same time, the one whose insertion comes
first has created it. Every other one is refused, since the machine is there by then and nobody
takes it out.

* `CreationEnds`: what a creation among others establishes.
* `secure_create`: it comes to such an end; `creations_settle`: all of them do.
* `exists_creator`: one of them has created the machine.
* `ofSubmission_alreadyThere`: how the others are told.
-/

namespace GceMachines

open InMemory (Quiet alreadyThere)
open Journal (Meanwhile Around Recorded)
open Lifecycle

/-! ### Insertions into a service that nothing disturbs -/

namespace InMemory

variable {size k : Nat} {m : InMemory} {project zone : String} {body : Instance}

theorem Quiet.insert_taken (h : m.Quiet size k)
    (ht : m.instances.contains ⟨project, zone, body.name⟩ = true) :
    (m.insert project zone body).1 = .error (alreadyThere ⟨project, zone, body.name⟩) := by
  unfold insert
  dsimp only
  rw [h.noFailures, ht, if_pos rfl]

theorem Quiet.change?_insert_taken (h : m.Quiet size k)
    (ht : m.instances.contains ⟨project, zone, body.name⟩ = true) :
    m.change? (.insert project zone body) = none := by
  simp only [change?, h.insert_taken ht]

theorem Quiet.change?_insert_free (h : m.Quiet size k)
    (hfree : m.instances.contains ⟨project, zone, body.name⟩ = false) :
    ∃ op ch, (m.insert project zone body).1 = .ok op ∧
      m.change? (.insert project zone body) = some ch ∧ ch.operation = op.name := by
  obtain ⟨op, m', hins⟩ := h.insert_free (SortedMap.contains_eq_false_iff.mp hfree)
  refine ⟨op, ⟨.insertion, ⟨project, zone, body.name⟩, op.name, m.nextOutcome⟩, by rw [hins], ?_,
    rfl⟩
  simp only [change?, hins]

end InMemory

/-- **What a conflict says** about a zone that lacks something, the names of the machine say. -/
theorem missingInZone_alreadyThere {t : MachineId} :
    missingInZone.toList <:+: (alreadyThere t).message.toList ↔
      missingInZone.toList <:+: t.project.toList ∨ missingInZone.toList <:+: t.zone.toList ∨
        missingInZone.toList <:+: t.name.toList := by
  have hslash : '/' ∉ missingInZone.toList := by decide
  have hquote : '\'' ∉ missingInZone.toList := by decide
  have htext : ("The resource '" ++ t.path ++ "' already exists").toList =
      "The resource 'projects".toList ++ '/' :: (t.project.toList ++ '/' :: ("zones".toList ++
        '/' :: (t.zone.toList ++ '/' :: ("instances".toList ++ '/' :: (t.name.toList ++
          '\'' :: " already exists".toList))))) := by
    simp [MachineId.path, String.toList_append]
  have hfixed : ∀ piece ∈ ["The resource 'projects", "zones", "instances", " already exists"],
      ¬ missingInZone.toList <:+: piece.toList := by
    simp only [← Text.contains_iff]
    decide
  have h₁ := hfixed "The resource 'projects" (by decide)
  have h₂ := hfixed "zones" (by decide)
  have h₃ := hfixed "instances" (by decide)
  have h₄ := hfixed " already exists" (by decide)
  unfold alreadyThere
  rw [ServiceError.missingInZone_api, htext]
  -- the words have neither a slash nor a quotation mark
  rw [Text.infix_append_cons_iff hslash, Text.infix_append_cons_iff hslash,
    Text.infix_append_cons_iff hslash, Text.infix_append_cons_iff hslash,
    Text.infix_append_cons_iff hslash, Text.infix_append_cons_iff hquote]
  simp only [h₁, h₂, h₃, h₄, false_or, or_false]

/-- **A conflict is told as the service puts it**, unless the names of the machine speak of what is
missing in a zone. -/
theorem ofSubmission_alreadyThere {t : MachineId}
    (hp : Text.contains t.project missingInZone = false)
    (hz : Text.contains t.zone missingInZone = false)
    (hn : Text.contains t.name missingInZone = false) :
    ofSubmission (alreadyThere t) =
      .remote ("googleapi: Error 409: The resource '" ++ t.path ++ "' already exists") := by
  have hnot : ¬ Text.contains (alreadyThere t).message missingInZone = true := by
    rw [Text.contains_iff, missingInZone_alreadyThere, ← Text.contains_iff, ← Text.contains_iff,
      ← Text.contains_iff, hp, hz, hn]
    simp
  have hmessage : (alreadyThere t).message =
      "googleapi: Error 409: The resource '" ++ t.path ++ "' already exists" := by
    have hfront : "googleapi: Error " ++ toString 409 ++ ": " ++ "The resource '" =
        "googleapi: Error 409: The resource '" := by decide
    unfold alreadyThere ServiceError.message
    dsimp only
    rw [← String.append_assoc, ← String.append_assoc, hfront]
  unfold ofSubmission
  rw [if_neg hnot, ← hmessage]
  rfl

variable {as : List Attempt} {a : Attempt} {size k i : Nat} {m : InMemory} {j j' : Journal}
  {t : MachineId} {w : World Journal} {r : Except MachineError String}

/-! ### One creation among others -/

/-- **What a creation among others establishes**: the machine is there, and either the caller's own
insertion was accepted, or none of it was because the machine was there before. -/
structure CreationEnds (t : MachineId) (i : Nat) (r : Except MachineError String) (j : Journal) :
    Prop where
  stored : j.service.instances.contains t = true
  result : (r = .ok t.text ∧ ∃ ch, j.changesOf i = [ch]) ∨
    r = .error (ofSubmission (alreadyThere t)) ∧ j.changesOf i = []

theorem Asking.ne_deletion {r : Request} (h : Asking .insertion as i r) :
    r.asks? ≠ some (.deletion, t) := by
  obtain ⟨a, -, hr⟩ := h
  intro he
  cases hr _ he

theorem stored_of_recorded (h : Recorded (Asking .insertion as) j j')
    (ht : j.service.instances.contains t = true) : j'.service.instances.contains t = true := by
  unfold SortedMap.contains at ht ⊢
  obtain ⟨inst, hi⟩ := Option.isSome_iff_exists.mp ht
  rw [Journal.stays_of_recorded (fun _ _ hr => hr.ne_deletion) h hi]
  rfl

theorem CreationEnds.around (ha : as[i]? = some a)
    (hj : Around (Asking .insertion as) i Request.Reads j j') (h : CreationEnds t i r j) :
    CreationEnds t i r j' := by
  refine ⟨stored_of_recorded (recorded_of_around ha hj) h.stored, ?_⟩
  rw [Journal.changesOf_of_around hj]
  exact h.result

/-- The plan of an attempt to create a machine. -/
def Attempt.creation (a : Attempt) : Plan (Except MachineError String) :=
  create a.limits a.target.name a.spec a.secret

theorem Attempt.creation_calls (ha : as[i]? = some a) (hr : a.Ready k) :
    a.creation.Calls (Asking .insertion as i) := by
  refine Calls.counted _ (calls_entered hr.project_eq ⟨?_, fun reply => ?_⟩)
  · refine calls_of_request?_eq_some rfl ⟨a, ha, fun x hx => ?_⟩
    obtain rfl := Option.some.inj hx
    rw [hr.zone_eq]
    rfl
  · match reply with
    | .error e => trivial
    | .ok op => exact Calls.finish ⟨a, ha, nofun⟩ a.limits

theorem Change.Made.contains {ch : Change} {m' : InMemory} (h : ch.Made m m')
    (hkind : ch.kind = .insertion) (hout : ch.outcome = none) :
    m'.instances.contains ch.target = true := by
  obtain ⟨inst, hafter⟩ := h.inserted hkind hout
  rw [hafter, SortedMap.contains_insert, decide_eq_true rfl, Bool.true_or]

theorem CreationEnds.refused {project zone : String} {body : Instance}
    (hq : j.service.Quiet size k)
    (hthere : j.service.instances.contains ⟨project, zone, body.name⟩ = true)
    (hbefore : j.changesOf i = []) :
    CreationEnds ⟨project, zone, body.name⟩ i
      (.error (ofSubmission (alreadyThere ⟨project, zone, body.name⟩)))
      (j.record i (.insert project zone body)) := by
  have hchange := hq.change?_insert_taken hthere
  refine ⟨?_, .inr ⟨rfl, ?_⟩⟩
  · rw [Journal.service_record, (InMemory.unmade_of_change? hchange).instances_eq]
    exact hthere
  · rw [Journal.changesOf_record, hchange, hbefore, if_pos rfl]
    rfl

theorem CreationEnds.accepted {project zone : String} {body : Instance} {ch : Change}
    (hq : j.service.Quiet size k)
    (hchange : j.service.change? (.insert project zone body) = some ch)
    (hbefore : j.changesOf i = []) :
    CreationEnds ⟨project, zone, body.name⟩ i
      (.ok (MachineId.text ⟨project, zone, body.name⟩))
      (j.record i (.insert project zone body)) := by
  obtain ⟨hasks, hout⟩ := InMemory.asks?_of_change? hchange
  obtain ⟨hkind, htarget⟩ := Prod.ext_iff.mp (Option.some.inj hasks)
  refine ⟨?_, .inl ⟨rfl, ch, ?_⟩⟩
  · have hstored := (InMemory.made_of_change? hchange).contains hkind.symm
      (hout.trans hq.nextOutcome)
    rw [show ch.target = ⟨project, zone, body.name⟩ from htarget.symm] at hstored
    exact hstored
  · rw [Journal.changesOf_record, hchange, hbefore, if_pos rfl]
    rfl

/-- **The insertion of a creation** is accepted, and then waited for, or it is refused. -/
theorem secure_insertion (ha : as[i]? = some a) (hr : a.Ready k)
    (hw : Attempted .insertion as size k m w.state) (hnone : w.state.changesOf i = [])
    {body : Instance} (hbody : body.name = a.target.name)
    {next : Except ServiceError Operation → Plan (Except MachineError String)}
    (hrefused : ∀ e, next (.error e) = Plan.fail (ofSubmission e))
    (haccepted : ∀ op, next (.ok op) =
      finish a.limits ⟨a.target.project, a.spec.zone, a.target.name⟩ op) :
    Secure (Asking .insertion as) i (fun r w => CreationEnds a.target i r w.state)
      (.ask (.call (.insert a.target.project a.spec.zone body)) next) (4 * max 1 k + 2 + 1) w := by
  have htarget : (⟨a.target.project, a.spec.zone, body.name⟩ : MachineId) = a.target := by
    rw [hr.zone_eq, hbody]
  intro j hj
  have hq := (hw.recorded (recorded_of_around ha hj.around)).quiet
  have hbefore : j.changesOf i = [] := (Journal.changesOf_of_around hj.around).trans hnone
  cases hthere : j.service.instances.contains ⟨a.target.project, a.spec.zone, body.name⟩ with
  | true =>
    obtain ⟨w₁, hcall, hsame⟩ := exists_called (i := i) (w := w.within j)
      (show (InMemory.answer (.insert a.target.project a.spec.zone body) j.service).1 =
        some (.error (alreadyThere ⟨_, _, body.name⟩)) from congrArg some (hq.insert_taken hthere))
    have hends := CreationEnds.refused hq hthere hbefore
    rw [htarget] at hends
    refine ⟨_, w₁, hcall, ?_⟩
    rw [hrefused, htarget]
    exact fun j' hj' => CreationEnds.around ha hj'.around (hsame ▸ hends)
  | false =>
    obtain ⟨op, ch, hins, hchange, hop⟩ := hq.change?_insert_free hthere
    obtain ⟨w₁, hcall, hsame⟩ := exists_called (i := i) (w := w.within j)
      (show (InMemory.answer (.insert a.target.project a.spec.zone body) j.service).1 =
        some (.ok op) from congrArg some hins)
    have hends := CreationEnds.accepted hq hchange hbefore
    rw [htarget] at hends
    have hfinish : Secure (Asking .insertion as) i _ (finish a.limits a.target op)
        (4 * max 1 k + 2) w₁ := secure_accepted hq hchange hop hsame hr.inTime
    refine ⟨_, w₁, hcall, ?_⟩
    rw [haccepted, hr.zone_eq]
    refine hfinish.imp fun r w' => ?_
    rintro ⟨rfl, haround⟩
    exact CreationEnds.around ha haround (hsame ▸ hends)

/-- **A creation among others** comes to its end. -/
theorem secure_create (ha : as[i]? = some a) (hr : a.Ready k)
    (hw : Attempted .insertion as size k m w.state) (hnone : w.state.changesOf i = []) :
    Secure (Asking .insertion as) i (fun r w => CreationEnds a.target i r w.state) a.creation
      (4 * max 1 k + 5) w := by
  rw [show 4 * max 1 k + 5 = 1 + (4 * max 1 k + 2 + 1) + 1 by omega]
  refine Secure.counted (fun r j j' hj h => h.around ha hj.around) ?_
  refine (secure_enter hr.project_eq).bindOk fun p w₁ => ?_
  rintro ⟨rfl, hj⟩
  exact secure_insertion ha hr (hw.recorded (recorded_of_around ha hj.around))
    ((Journal.changesOf_of_around hj.around).trans hnone) rfl (fun _ => rfl) fun _ => rfl

/-! ### All of them -/

/-- **Creations that begin together** all come to their ends. -/
theorem creations_settle (hq : m.Quiet size k) (hr : ∀ a ∈ as, a.Ready k) (schedule : List Nat) :
    (∀ i a, as[i]? = some a → 4 * max 1 k + 5 ≤ schedule.count i →
      ∃ r, ((attempts m Attempt.creation as).run schedule).result? i = some r) ∧
    (∀ i a r, as[i]? = some a →
      ((attempts m Attempt.creation as).run schedule).result? i = some r →
      CreationEnds a.target i r ((attempts m Attempt.creation as).run schedule).state) ∧
    Attempted .insertion as size k m ((attempts m Attempt.creation as).run schedule).state := by
  have hsecure (i : Nat) (a : Attempt) (ha : as[i]? = some a) :
      a.creation.Calls (Asking .insertion as i) ∧
        Secure (Asking .insertion as) i (fun r w => CreationEnds a.target i r w.state) a.creation
          (4 * max 1 k + 5) ⟨a.start, ⟨m, []⟩, [], []⟩ := by
    have hready := hr a (List.mem_of_getElem? ha)
    exact ⟨a.creation_calls ha hready, secure_create ha hready (.start hq) rfl⟩
  obtain ⟨hturns, hends, hrec⟩ := attempts_settle (fun a i r j => CreationEnds a.target i r j)
    (fun _ => 4 * max 1 k + 5) hsecure schedule
  exact ⟨hturns, hends, (Attempted.start hq).recorded hrec⟩

/-- **One of them has created the machine**: its insertion was accepted, and no other. -/
theorem exists_creator (hatt : Attempted .insertion as size k m j) (ht : ∀ a ∈ as, a.target = t)
    (hfree : m.instances.contains t = false) (hne : as ≠ [])
    {results : Nat → Option (Except MachineError String)}
    (hends : ∀ i < as.length, ∃ r, results i = some r ∧ CreationEnds t i r j) :
    ∃ i₀ < as.length, ∀ i < as.length, results i =
      some (if i = i₀ then .ok t.text else .error (ofSubmission (alreadyThere t))) := by
  obtain ⟨r₀, -, h₀⟩ := hends 0 (List.length_pos_iff.mpr hne)
  have hbalance := hatt.ledger.balanced t
  have hother : j.effects .deletion t = 0 := hatt.effects_other (by decide)
  unfold InMemory.stored at hbalance
  rw [hfree, h₀.stored, hatt.effects_eq ht, hother] at hbalance
  have hone : j.authored.length = 1 := by
    rw [← List.length_map (f := Prod.snd), ← j.changes_eq_authored]
    simpa using hbalance
  obtain ⟨⟨i₀, ch⟩, hauthored⟩ := List.length_eq_one_iff.mp hone
  obtain ⟨a, ha, -⟩ := hatt.authored (i₀, ch) (by rw [hauthored]; exact .head _)
  refine ⟨i₀, (List.getElem?_eq_some_iff.mp ha).1, fun i hi => ?_⟩
  obtain ⟨r, hr, h⟩ := hends i hi
  rw [hr]
  have hof := j.changesOf_of_single hauthored i
  rcases h.result with ⟨rfl, ch', hch'⟩ | ⟨rfl, hnone⟩
  · rw [hof] at hch'
    split at hch'
    · next he => rw [if_pos he.symm]
    · cases hch'
  · rw [hof] at hnone
    split at hnone
    · cases hnone
    · next he => rw [if_neg (Ne.symm he)]

end GceMachines
