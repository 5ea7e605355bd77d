import GceMachines.Compute.Backends
import GceMachines.Proofs.Lifecycle.Endings
import GceMachines.Proofs.Lifecycle.Mutations
import GceMachines.Proofs.SortedMap

/-!
# What is found among instances

A search for all names finds the instances with the markers of a specification, and puts the name
of each under the id of its machine. Within a zone an id has one name only, so nothing is lost when
the instances come in pages, some of them empty, or when a name comes twice. A search for one name
stops early, and finds what the other search has under that name.

* `catalogue`: the instances that a specification owns, by their ids.
* `mem_collect_iff`, `mem_catalogue_iff`: what is found among instances.
* `run_discover_all`, `run_discover_named`: both kinds of search on a walk to the end.
* `discovery_eq_catalogue`: both kinds of search, and the calls that make them.
-/

namespace GceMachines

/-! ### Ids -/

theorem MachineId.text_inj_name {project zone a b : String}
    (h : text ⟨project, zone, a⟩ = text ⟨project, zone, b⟩) : a = b := by
  unfold text at h
  dsimp only at h
  split at h
  · next ha =>
    split at h
    · next hb => rw [String.isEmpty_iff.mp ha, String.isEmpty_iff.mp hb]
    · next hb =>
      have := (String.append_eq_empty_iff.mp h.symm).2
      exact absurd (String.isEmpty_iff.mpr this) hb
  · next ha =>
    split at h
    · next hb =>
      have := (String.append_eq_empty_iff.mp h).2
      exact absurd (String.isEmpty_iff.mpr this) ha
    · exact (String.append_right_inj _).mp h

namespace Lifecycle

/-! ### What a search makes of instances -/

/-- A machine that is found, as an entry. -/
def entryOf (s : Search) (i : Instance) : String × String :=
  (MachineId.text ⟨s.project, s.zone, i.name⟩, i.name)

/-- Every name that was found stands behind the id of its machine. -/
def Keyed (s : Search) (found : Discovered) : Prop :=
  ∀ e ∈ found.entries, e.1 = MachineId.text ⟨s.project, s.zone, e.2⟩

theorem Keyed.mem_add_iff {s : Search} {found : Discovered} (hf : Keyed s found) {i : Instance}
    {e : String × String} :
    e ∈ (s.add found i).entries ↔ e ∈ found.entries ∨ e = entryOf s i := by
  unfold Search.add
  rw [SortedMap.mem_insert_iff]
  constructor
  · rintro (rfl | ⟨he, -⟩)
    · exact .inr rfl
    · exact .inl he
  · rintro (he | rfl)
    · by_cases hk : e.1 = MachineId.text ⟨s.project, s.zone, i.name⟩
      · have hn := MachineId.text_inj_name ((hf e he).symm.trans hk)
        exact .inl (Prod.ext hk hn)
      · exact .inr ⟨he, hk⟩
    · exact .inl rfl

theorem Keyed.add {s : Search} {found : Discovered} (hf : Keyed s found) (i : Instance) :
    Keyed s (s.add found i) := by
  intro e he
  rcases hf.mem_add_iff.mp he with he | rfl
  · exact hf e he
  · rfl

theorem Keyed.mem_foldl_add {s : Search} {is : List Instance} {found : Discovered}
    (hf : Keyed s found) {e : String × String} :
    e ∈ (is.foldl s.add found).entries ↔ e ∈ found.entries ∨ ∃ i ∈ is, e = entryOf s i := by
  induction is generalizing found with
  | nil => simp
  | cons i is ih =>
    rw [List.foldl_cons, ih (hf.add i), hf.mem_add_iff]
    constructor
    · rintro ((he | rfl) | ⟨j, hj, rfl⟩)
      · exact .inl he
      · exact .inr ⟨i, .head _, rfl⟩
      · exact .inr ⟨j, .tail _ hj, rfl⟩
    · rintro (he | ⟨j, hj, rfl⟩)
      · exact .inl (.inl he)
      · rcases List.mem_cons.mp hj with rfl | hj
        · exact .inl (.inr rfl)
        · exact .inr ⟨j, hj, rfl⟩

/-- **What a search for all names finds** among instances. -/
theorem mem_collect_iff {s : Search} {is : List Instance} {e : String × String} :
    e ∈ (s.collect is).entries ↔ ∃ i ∈ is, s.wants i = true ∧ e = entryOf s i := by
  have hempty : Keyed s .empty := nofun
  unfold Search.collect
  rw [hempty.mem_foldl_add]
  simp [SortedMap.empty, and_assoc]

/-! ### What a specification owns among instances -/

/-- **The instances with the markers among tags**: the name of each under the id of its machine. -/
def catalogue (project zone : String) (tags : List String) (is : List Instance) : Discovered :=
  .ofList <| (is.filter fun i => Markers.ofTags i.tagItems = Markers.ofTags tags).map fun i =>
    (MachineId.text ⟨project, zone, i.name⟩, i.name)

variable {project zone name : String} {tags : List String} {is : List Instance}

theorem collect_eq_catalogue {cluster role : String}
    (hm : Markers.ofTags tags = ⟨some cluster, some role⟩) :
    Search.collect ⟨project, zone, cluster, role, none⟩ is = catalogue project zone tags is := by
  have hwants : Search.wants ⟨project, zone, cluster, role, none⟩ =
      fun i => decide (Markers.ofTags i.tagItems = Markers.ofTags tags) := by
    funext i
    rw [hm]
    rfl
  unfold Search.collect catalogue SortedMap.ofList
  rw [hwants, List.foldl_map]
  rfl

/-- **What a specification owns** stands under the id of its machine, and nothing else does. -/
theorem mem_catalogue_iff (hc : (Markers.ofTags tags).complete? ≠ none) {e : String × String} :
    e ∈ (catalogue project zone tags is).entries ↔
      e.1 = MachineId.text ⟨project, zone, e.2⟩ ∧ ∃ i ∈ is, Owns tags e.2 i := by
  obtain ⟨⟨cluster, role⟩, hsome⟩ := Option.ne_none_iff_exists'.mp hc
  have hm := Markers.complete?_eq_some.mp hsome
  rw [← collect_eq_catalogue hm, mem_collect_iff]
  constructor
  · rintro ⟨i, hi, hw, rfl⟩
    exact ⟨rfl, i, hi, rfl, (Search.wants_iff.mp hw).2.trans hm.symm⟩
  · rintro ⟨hid, i, hi, ho⟩
    refine ⟨i, hi, Search.wants_iff.mpr ⟨nofun, ho.marked.trans hm⟩, Prod.ext ?_ ho.named.symm⟩
    rw [hid, ← ho.named]
    rfl

theorem filter_catalogue_of_owned (hc : (Markers.ofTags tags).complete? ≠ none)
    (h : ∃ i ∈ is, Owns tags name i) :
    (catalogue project zone tags is).entries.filter (·.2 = name) =
      (single project zone name).entries := by
  refine congrArg SortedMap.entries (SortedMap.eq_of_mem_iff
    (m := ⟨_, (catalogue project zone tags is).sorted.filter _⟩) fun e => ?_)
  rw [List.mem_filter, mem_catalogue_iff hc, decide_eq_true_iff]
  constructor
  · rintro ⟨⟨hid, -⟩, rfl⟩
    exact List.mem_singleton.mpr (Prod.ext hid rfl)
  · intro he
    obtain rfl := List.mem_singleton.mp he
    exact ⟨⟨rfl, h⟩, rfl⟩

theorem filter_catalogue_of_unowned (hc : (Markers.ofTags tags).complete? ≠ none)
    (h : ∀ i ∈ is, ¬ Owns tags name i) :
    (catalogue project zone tags is).entries.filter (·.2 = name) = [] := by
  refine List.filter_eq_nil_iff.mpr fun e he hn => ?_
  obtain ⟨i, hi, ho⟩ := ((mem_catalogue_iff hc).mp he).2
  exact h i hi (of_decide_eq_true hn ▸ ho)

/-! ### Both kinds of search -/

variable {σ : Type} {b : Backend σ} {cancelAt : Option Nat} {n : Nat} {token : Option String}
  {w w' : World σ} {earlier : List InstanceList} {last : InstanceList}

theorem Walked.until (hw : Walked b cancelAt project zone token w earlier last w')
    {P : Instance → Prop} (h : ∃ i ∈ itemsOf earlier ++ last.items, P i) :
    ∃ before page w₁, before.length ≤ earlier.length ∧
      Walked b cancelAt project zone token w before page w₁ ∧
      (∀ i ∈ itemsOf before, ¬ P i) ∧ ∃ i ∈ page.items, P i := by
  induction hw with
  | last hl => exact ⟨[], _, _, Nat.le_refl 0, .last hl, fun _ hi => absurd hi List.not_mem_nil, h⟩
  | @more token t w w₁ w' page last earlier hl ht hw ih =>
    by_cases hpage : ∃ i ∈ page.items, P i
    · exact ⟨[], page, w₁, Nat.zero_le _, .last hl, fun _ hi => absurd hi List.not_mem_nil, hpage⟩
    · have hnot : ∀ i ∈ page.items, ¬ P i := fun i hi hp => hpage ⟨i, hi, hp⟩
      have hrest : ∃ i ∈ itemsOf earlier ++ last.items, P i := by
        obtain ⟨i, hi, hp⟩ := h
        rw [itemsOf_cons, List.append_assoc] at hi
        rcases List.mem_append.mp hi with hi | hi
        · exact absurd hp (hnot i hi)
        · exact ⟨i, hi, hp⟩
      obtain ⟨before, page', w₂, hlen, hw', hbefore, hfound⟩ := ih hrest
      refine ⟨page :: before, page', w₂, Nat.succ_le_succ hlen, .more hl ht hw', ?_, hfound⟩
      intro i hi
      rw [itemsOf_cons] at hi
      exact (List.mem_append.mp hi).elim (hnot i) (hbefore i)

/-- **A search for all names** on a walk to the end. -/
theorem run_discover_all (hc : (Markers.ofTags tags).complete? ≠ none)
    (hw : Walked b cancelAt project zone none w earlier last w')
    (hend : Exhausted b cancelAt last w') (hlen : earlier.length < n) :
    (discover n project zone tags none).run (b.handler cancelAt) w =
      .answered (.ok (catalogue project zone tags (itemsOf earlier ++ last.items))) w' := by
  unfold discover
  split
  · next hnone => exact absurd hnone hc
  · next cluster role hsome =>
    rw [← collect_eq_catalogue (Markers.complete?_eq_some.mp hsome)]
    exact Walked.run_unnamed hw rfl hlen hend

/-- **A search for one name** on a walk to the end. -/
theorem run_discover_named (hc : (Markers.ofTags tags).complete? ≠ none)
    (hw : Walked b cancelAt project zone none w earlier last w')
    (hend : Exhausted b cancelAt last w') (hlen : earlier.length < n) (name : String) :
    ∃ found w₁, (discover n project zone tags (some name)).run (b.handler cancelAt) w =
        .answered (.ok found) w₁ ∧
      found.entries =
        (catalogue project zone tags (itemsOf earlier ++ last.items)).entries.filter
          (·.2 = name) := by
  by_cases h : ∃ i ∈ itemsOf earlier ++ last.items, Owns tags name i
  · obtain ⟨before, page, w₁, hle, hw₁, hbefore, hfound⟩ := hw.until h
    have hloc : Located b cancelAt project zone tags name w before page w₁ :=
      ⟨hc, hw₁, hbefore, hfound⟩
    exact ⟨_, w₁, hloc.run_discover (Nat.lt_of_le_of_lt hle hlen),
      (filter_catalogue_of_owned hc h).symm⟩
  · have hnowhere : ∀ i ∈ itemsOf earlier ++ last.items, ¬ Owns tags name i :=
      fun i hi ho => h ⟨i, hi, ho⟩
    exact ⟨_, w', hw.run_discover_of_nowhere hc hend hnowhere hlen,
      (filter_catalogue_of_unowned hc hnowhere).symm⟩

/-! ### The calls that search -/

variable {secret : Secret} {spec : ProviderSpec} {w₀ w₁ : World σ} {limits : Limits}
  {found : Discovered}

/-- **The change that a deletion asks for** is the removal of what its search has found. -/
theorem mutations_delete (hen : Entered b cancelAt secret w₀ project w)
    (hd : (discover limits.pages project spec.zone spec.tags (some name)).run
      (b.handler cancelAt) w = .answered (.ok found) w₁) :
    (b.run cancelAt (delete limits name spec secret) w₀).state.mutations =
      w₀.mutations ++
        if found.isEmpty then [] else [(w₁.now, deletion project name spec)] := by
  have hsearch : LeadsReading b cancelAt w
      ((discover limits.pages project spec.zone spec.tags (some name)).run
        (b.handler cancelAt) w).state :=
    (Calls.discover fun _ => rfl).leads w
  rw [hd] at hsearch
  have hbefore : LeadsReading b cancelAt w₀ w₁ := hen.leads.trans hsearch
  unfold Backend.run
  rw [delete_eq_seeking, run_seeking_of_found hen hd]
  refine Eq.trans ((leads_counted (P := Request.Reads) .delete _ w₁).mutations_eq) ?_
  unfold removing
  cases found.isEmpty with
  | true =>
    rw [if_pos rfl, if_pos rfl, List.append_nil]
    exact hbefore.mutations_eq
  | false =>
    rw [if_neg Bool.false_ne_true, if_neg Bool.false_ne_true]
    refine (mutations_of_one rfl hbefore (Program.Asks.leads_of_ask (fun r => ?_) w₁)).1
    match r with
    | .error e => dsimp only; split <;> trivial
    | .ok op => exact Calls.finish (P := Request.Reads) rfl limits

/-- What reading an id makes of what its search has found. -/
def naming (name : String) (found : Discovered) : Plan (Except MachineError String) :=
  match found.entries with
  | [] => Plan.fail (.notFound name)
  | (id, _) :: _ => Plan.succeed id

theorem status_eq_seeking :
    status limits name spec secret =
      seeking .status limits.pages name spec secret fun _ => naming name := rfl

theorem run_status_of_found (hen : Entered b cancelAt secret w₀ project w)
    (hd : (discover limits.pages project spec.zone spec.tags (some name)).run
      (b.handler cancelAt) w = .answered (.ok found) w₁) {id : String} :
    (∃ w₂, b.run cancelAt (status limits name spec secret) w₀ = .answered (.ok id) w₂) ↔
      found.entries.head?.map Prod.fst = some id := by
  unfold Backend.run
  rw [status_eq_seeking, run_seeking_of_found hen hd, naming]
  cases found.entries with
  | nil =>
    constructor
    · rintro ⟨w₂, h⟩
      cases h
    · intro h
      cases h
  | cons e es =>
    constructor
    · rintro ⟨w₂, h⟩
      cases h
      rfl
    · intro h
      cases h
      exact run_counted_of_answered rfl

theorem run_status_of_unfound (hen : Entered b cancelAt secret w₀ project w)
    (hd : (discover limits.pages project spec.zone spec.tags (some name)).run
      (b.handler cancelAt) w = .answered (.ok .empty) w₁) :
    ∃ w₂, b.run cancelAt (status limits name spec secret) w₀ =
      .answered (.error (.notFound name)) w₂ := by
  unfold Backend.run
  rw [status_eq_seeking, run_seeking_of_found hen hd]
  exact run_counted_of_answered rfl

theorem run_list_of_entered {r : Except MachineError Discovered}
    (hen : Entered b cancelAt secret w₀ project w)
    (hd : (discover limits.pages project spec.zone spec.tags none).run (b.handler cancelAt) w =
      .answered r w₁) :
    ∃ w₂, b.run cancelAt (list limits spec secret) w₀ = .answered r w₂ := by
  have h := Program.run_bindOk_of_ok
    (fun project => discover limits.pages project spec.zone spec.tags none)
    (run_enter_eq_ok.mpr hen)
  exact run_counted_of_answered (h.trans hd)

theorem head?_filter_catalogue (hc : (Markers.ofTags tags).complete? ≠ none) {id : String} :
    ((catalogue project zone tags is).entries.filter (·.2 = name)).head?.map Prod.fst = some id ↔
      (id, name) ∈ (catalogue project zone tags is).entries := by
  rw [mem_catalogue_iff hc]
  by_cases h : ∃ i ∈ is, Owns tags name i
  · rw [filter_catalogue_of_owned hc h]
    constructor
    · intro he
      cases he
      exact ⟨rfl, h⟩
    · rintro ⟨hid, -⟩
      exact congrArg some hid.symm
  · rw [filter_catalogue_of_unowned hc fun i hi ho => h ⟨i, hi, ho⟩]
    constructor
    · intro he
      cases he
    · rintro ⟨-, ho⟩
      exact absurd ho h

theorem mutations_delete_iff (hc : (Markers.ofTags spec.tags).complete? ≠ none)
    (hen : Entered b cancelAt secret w₀ project w)
    (hd : (discover limits.pages project spec.zone spec.tags (some name)).run
      (b.handler cancelAt) w = .answered (.ok found) w₁)
    (hf : found.entries = (catalogue project spec.zone spec.tags is).entries.filter (·.2 = name)) :
    (∃ t, (b.run cancelAt (delete limits name spec secret) w₀).state.mutations =
        w₀.mutations ++ [(t, deletion project name spec)]) ↔
      ∃ id, (id, name) ∈ (catalogue project spec.zone spec.tags is).entries := by
  have hlisted : (∃ id, (id, name) ∈ (catalogue project spec.zone spec.tags is).entries) ↔
      found.isEmpty = false := by
    rw [SortedMap.isEmpty, hf]
    simp only [← head?_filter_catalogue hc]
    cases (catalogue project spec.zone spec.tags is).entries.filter (·.2 = name) <;> simp
  rw [hlisted, mutations_delete hen hd]
  cases found.isEmpty <;> simp

/-- **Discovery is a selection among all instances listed**, and its two kinds agree. On pages that
are listed to the end, however the instances are cut into pages, a search for all names finds the
names of the instances with both markers of the specification, each under the id of its machine; a
search for one name finds the part with that name. So a name has an id, under which the listing has
it, and is asked to be removed, exactly if the listing has it. -/
theorem discovery_eq_catalogue (hc : (Markers.ofTags spec.tags).complete? ≠ none)
    (hw : Walked b cancelAt project spec.zone none w earlier last w')
    (hend : Exhausted b cancelAt last w') (hlen : earlier.length < n) :
    ∃ all, all = catalogue project spec.zone spec.tags (itemsOf earlier ++ last.items) ∧
      (∀ e, e ∈ all.entries ↔
        e.1 = MachineId.text ⟨project, spec.zone, e.2⟩ ∧
          ∃ i ∈ itemsOf earlier ++ last.items, Owns spec.tags e.2 i) ∧
      b.run cancelAt (discover n project spec.zone spec.tags none) w = .answered (.ok all) w' ∧
      (∀ name, ∃ found w₁,
        b.run cancelAt (discover n project spec.zone spec.tags (some name)) w =
          .answered (.ok found) w₁ ∧
        found.entries = all.entries.filter (·.2 = name)) ∧
      ∀ poll secret w₀, Entered b cancelAt secret w₀ project w →
        (∃ w₁, b.run cancelAt (list ⟨poll, n⟩ spec secret) w₀ = .answered (.ok all) w₁) ∧
        ∀ name,
          (∀ id, (∃ w₁, b.run cancelAt (status ⟨poll, n⟩ name spec secret) w₀ =
              .answered (.ok id) w₁) ↔ (id, name) ∈ all.entries) ∧
          ((∃ t, (b.run cancelAt (delete ⟨poll, n⟩ name spec secret) w₀).state.mutations =
              w₀.mutations ++ [(t, deletion project name spec)]) ↔
            ∃ id, (id, name) ∈ all.entries) := by
  have hall := run_discover_all hc hw hend hlen
  refine ⟨_, rfl, fun e => mem_catalogue_iff hc, hall, run_discover_named hc hw hend hlen, ?_⟩
  intro poll secret w₀ hen
  refine ⟨run_list_of_entered hen hall, fun name => ?_⟩
  obtain ⟨found, w₁, hd, hf⟩ := run_discover_named hc hw hend hlen name
  refine ⟨fun id => ?_, mutations_delete_iff hc hen hd hf⟩
  rw [run_status_of_found hen hd, hf, head?_filter_catalogue hc]

/-! ### Three pages -/

/-- The instance of a name, with markers. -/
def marked (name : String) (tags : List String) : Instance :=
  { Instance.blank with name, tags := some ⟨tags, none⟩ }

/-- A specification of the nodes of a cluster, with a tag of another kind between the markers. -/
def fleet : ProviderSpec :=
  { ProviderSpec.blank with
    zone := "z"
    tags := ["kubernetes-io-cluster-c", "web", "kubernetes-io-role-node"] }

/-- A page with a machine and one of another cluster, a page without instances, and one that has the
machine again, before another one. -/
def threePages : List InstanceList :=
  [⟨[marked "b" fleet.tags, marked "x" ["kubernetes-io-cluster-d", "kubernetes-io-role-node"]],
      some "1"⟩,
    ⟨[], some "2"⟩,
    ⟨[marked "b" fleet.tags, marked "a" ["kubernetes-io-role-node", "kubernetes-io-cluster-c"]],
      some ""⟩]

/-- A service that is about to list three pages. -/
def threeToList : World Script := .start ⟨[], threePages.map fun page => .after 7 (.ok page)⟩

/-- Both machines are found on the three pages, each once. -/
theorem threePages_discovery :
    ∃ w', Walked Script.backend none "p" fleet.zone none threeToList (threePages.take 2)
        threePages[2] w' ∧
      Exhausted Script.backend none threePages[2] w' ∧
      (catalogue "p" fleet.zone fleet.tags (itemsOf threePages)).entries =
        [("gce:///p/z/a", "a"), ("gce:///p/z/b", "b")] ∧
      Script.backend.run none (discover 3 "p" fleet.zone fleet.tags none) threeToList =
        .answered (.ok (catalogue "p" fleet.zone fleet.tags (itemsOf threePages))) w' := by
  obtain ⟨w', hw⟩ : ∃ w', Walked Script.backend none "p" fleet.zone none threeToList
      (threePages.take 2) threePages[2] w' := ⟨_, .more rfl rfl (.more rfl rfl (.last rfl))⟩
  have hend : Exhausted Script.backend none threePages[2] w' := ⟨by decide, rfl⟩
  obtain ⟨_, rfl, -, hall, -⟩ := discovery_eq_catalogue (by decide) hw hend (Nat.lt_succ_self 2)
  exact ⟨w', hw, hend, by decide, hall⟩

end Lifecycle

end GceMachines
