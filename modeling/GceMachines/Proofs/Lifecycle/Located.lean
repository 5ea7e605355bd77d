import GceMachines.Proofs.Lifecycle.Walk

/-!
# Searches for one machine

A machine is looked for by its name and by the markers of a specification. The search succeeds in
two ways: it has found the machine on the last page that it listed, or it has established that the
machine is missing. It establishes that without a look when the specification lacks a marker, and
otherwise by a walk to the end of the listing on which no page has the machine.

* `Owns`: what a specification owns under a name.
* `Located`, `Missing`: the two ways.
* `located_or_missing`: a search that succeeds goes one of the two ways.
* `Located.run_discover`, `Missing.run_discover`: on either way a search succeeds.
* `Broken.run_discover`: a page that fails makes a search fail.
-/

namespace GceMachines

theorem Markers.complete?_eq_some {m : Markers} {cluster role : String} :
    m.complete? = some (cluster, role) ↔ m = ⟨some cluster, some role⟩ := by
  obtain ⟨_ | c, _ | r⟩ := m <;> simp [Markers.complete?]

namespace Lifecycle

variable {σ : Type}

variable {b : Backend σ} {cancelAt : Option Nat} {project zone name : String} {tags : List String}
  {n : Nat} {w w' : World σ} {earlier : List InstanceList} {last : InstanceList}
  {found : Discovered}

/-! ### Found or missing -/

/-- **What a specification owns** under a name: the name is the very same, and so are the markers.
-/
structure Owns (tags : List String) (name : String) (i : Instance) : Prop where
  named : i.name = name
  marked : Markers.ofTags i.tagItems = Markers.ofTags tags

/-- **A machine was found** on the last page listed, and on no page before it. -/
structure Located (b : Backend σ) (cancelAt : Option Nat) (project zone : String)
    (tags : List String) (name : String) (w : World σ) (earlier : List InstanceList)
    (last : InstanceList) (w' : World σ) : Prop where
  complete : (Markers.ofTags tags).complete? ≠ none
  walked : Walked b cancelAt project zone none w earlier last w'
  before : ∀ i ∈ itemsOf earlier, ¬ Owns tags name i
  found : ∃ i ∈ last.items, Owns tags name i

/-- **A machine is missing**: no specification without both markers owns anything, and otherwise
all pages were listed, none of which has the machine. -/
inductive Missing (b : Backend σ) (cancelAt : Option Nat) (project zone : String)
    (tags : List String) (name : String) (w : World σ) : World σ → Prop
  | incomplete (h : (Markers.ofTags tags).complete? = none) :
      Missing b cancelAt project zone tags name w w
  | exhausted {earlier : List InstanceList} {last : InstanceList} {w' : World σ}
      (complete : (Markers.ofTags tags).complete? ≠ none)
      (walked : Walked b cancelAt project zone none w earlier last w')
      (ended : Exhausted b cancelAt last w')
      (nowhere : ∀ i ∈ itemsOf earlier ++ last.items, ¬ Owns tags name i) :
      Missing b cancelAt project zone tags name w w'

/-- What a search for a name comes to when it has found the machine. -/
def single (project zone name : String) : Discovered :=
  SortedMap.empty.insert (MachineId.text ⟨project, zone, name⟩) name

section
variable {cluster role : String} {is : List Instance}

theorem wants_iff_owns {i : Instance} (hm : Markers.ofTags tags = ⟨some cluster, some role⟩) :
    Search.wants ⟨project, zone, cluster, role, some name⟩ i = true ↔ Owns tags name i := by
  rw [Search.wants_iff, ← hm]
  constructor
  · rintro ⟨hn, hi⟩
    exact ⟨hn name rfl, hi⟩
  · rintro ⟨hn, hi⟩
    exact ⟨fun _ h => by rw [hn]; exact Option.some.inj h, hi⟩

theorem scan_of_owned (hm : Markers.ofTags tags = ⟨some cluster, some role⟩)
    (h : ∃ i ∈ is, Owns tags name i) :
    Search.scan ⟨project, zone, cluster, role, some name⟩ .empty is =
      (single project zone name, true) := by
  obtain ⟨i, hi, ho⟩ := h
  obtain ⟨j, -, hj, hs⟩ := Search.scan_named rfl ⟨i, hi, (wants_iff_owns hm).mpr ho⟩
  rw [hs, Search.add, ((wants_iff_owns hm).mp hj).named]
  rfl

theorem scan_of_unowned (hm : Markers.ofTags tags = ⟨some cluster, some role⟩)
    (h : ∀ i ∈ is, ¬ Owns tags name i) :
    Search.scan ⟨project, zone, cluster, role, some name⟩ found is = (found, false) := by
  refine Search.scan_of_unwanted fun i hi => ?_
  rw [← Bool.not_eq_true, wants_iff_owns hm]
  exact h i hi

end

theorem run_discover_of_incomplete (hc : (Markers.ofTags tags).complete? = none)
    (wanted : Option String) (w : World σ) :
    (discover n project zone tags wanted).run (b.handler cancelAt) w =
      .answered (.ok .empty) w := by
  unfold discover
  rw [hc]
  rfl

/-- **The two ways of a search that succeeds.** -/
theorem located_or_missing
    (h : (discover n project zone tags (some name)).run (b.handler cancelAt) w =
      .answered (.ok found) w') :
    (found = single project zone name ∧ ∃ earlier last, earlier.length < n ∧
        Located b cancelAt project zone tags name w earlier last w') ∨
      found = .empty ∧ Missing b cancelAt project zone tags name w w' := by
  unfold discover at h
  split at h
  · next hc =>
    cases h
    exact .inr ⟨rfl, .incomplete hc⟩
  · next cluster role hc =>
    have hm := Markers.complete?_eq_some.mp hc
    have hne : (Markers.ofTags tags).complete? ≠ none := by simp [hc]
    obtain ⟨earlier, last, stop, hlen, hw, he, hall, hend⟩ := walked_of_run h
    have hbefore : ∀ i ∈ itemsOf earlier, ¬ Owns tags name i := by
      intro i hi ho
      rw [scan_of_owned hm ⟨i, hi, ho⟩] at he
      cases he
    rw [Search.scan_append, scan_of_unowned hm hbefore, if_neg (by simp)] at hall
    by_cases hlast : ∃ i ∈ last.items, Owns tags name i
    · rw [scan_of_owned hm hlast] at hall
      cases hall
      exact .inl ⟨rfl, earlier, last, hlen, hne, hw, hbefore, hlast⟩
    · have hlast' : ∀ i ∈ last.items, ¬ Owns tags name i := fun i hi ho => hlast ⟨i, hi, ho⟩
      rw [scan_of_unowned hm hlast'] at hall
      cases hall
      refine .inr ⟨rfl, .exhausted hne hw (hend rfl) fun i hi => ?_⟩
      exact (List.mem_append.mp hi).elim (hbefore i) (hlast' i)

theorem Located.run_discover
    (h : Located b cancelAt project zone tags name w earlier last w') (hn : earlier.length < n) :
    (discover n project zone tags (some name)).run (b.handler cancelAt) w =
      .answered (.ok (single project zone name)) w' := by
  unfold discover
  split
  · next hc => exact absurd hc h.complete
  · next cluster role hc =>
    have hm := Markers.complete?_eq_some.mp hc
    have hbefore : Search.scan ⟨project, zone, cluster, role, some name⟩ .empty (itemsOf earlier) =
        (.empty, false) := scan_of_unowned hm h.before
    have hall : Search.scan ⟨project, zone, cluster, role, some name⟩ .empty
        (itemsOf earlier ++ last.items) = (single project zone name, true) := by
      rw [Search.scan_append, hbefore, if_neg (by simp), scan_of_owned hm h.found]
    exact h.walked.run_walk hn (by rw [hbefore]) hall nofun

theorem Walked.run_discover_of_nowhere
    (hw : Walked b cancelAt project zone none w earlier last w')
    (hc : (Markers.ofTags tags).complete? ≠ none) (hend : Exhausted b cancelAt last w')
    (hnowhere : ∀ i ∈ itemsOf earlier ++ last.items, ¬ Owns tags name i)
    (hn : earlier.length < n) :
    (discover n project zone tags (some name)).run (b.handler cancelAt) w =
      .answered (.ok .empty) w' := by
  unfold discover
  split
  · next hnone => exact absurd hnone hc
  · next cluster role hsome =>
    have hm := Markers.complete?_eq_some.mp hsome
    have hbefore : Search.scan ⟨project, zone, cluster, role, some name⟩ .empty
        (itemsOf earlier) = (.empty, false) :=
      scan_of_unowned hm fun i hi => hnowhere i (List.mem_append_left _ hi)
    exact hw.run_walk hn (by rw [hbefore]) (scan_of_unowned hm hnowhere) fun _ => hend

theorem Missing.run_discover (h : Missing b cancelAt project zone tags name w w') :
    ∃ n, ∀ m, n ≤ m → (discover m project zone tags (some name)).run (b.handler cancelAt) w =
      .answered (.ok .empty) w' := by
  cases h with
  | incomplete hc =>
    exact ⟨0, fun _ _ => run_discover_of_incomplete hc _ w⟩
  | @exhausted earlier _ _ hc hw hend hnowhere =>
    exact ⟨earlier.length + 1, fun _ hm => hw.run_discover_of_nowhere hc hend hnowhere hm⟩

theorem Broken.run_discover {wanted : Option String} {e : ServiceError}
    (hw : Broken b cancelAt project zone none w earlier e w') (hn : earlier.length < n)
    (hc : (Markers.ofTags tags).complete? ≠ none)
    (hnowhere : ∀ name ∈ wanted, ∀ i ∈ itemsOf earlier, ¬ Owns tags name i) :
    (discover n project zone tags wanted).run (b.handler cancelAt) w =
      .answered (.error e.toMachineError) w' := by
  unfold discover
  split
  · next hnone => exact absurd hnone hc
  · next cluster role hsome =>
    refine Broken.run_walk hw hn ?_
    cases wanted with
    | none => rw [Search.scan_unnamed rfl]
    | some name =>
      rw [scan_of_unowned (Markers.complete?_eq_some.mp hsome) (hnowhere name rfl)]

end Lifecycle

end GceMachines
