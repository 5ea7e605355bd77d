import GceMachines.Proofs.InMemory.Service
import GceMachines.Proofs.Lifecycle.Entering
import GceMachines.Proofs.Lifecycle.Catalogue
import GceMachines.Proofs.Text.Integer

/-!
# Listing what is in memory

The token of a page is the place at which the next one starts, so a walk to the end goes over every
instance of the zone and over no other. What a search for all names finds is therefore known from
the instances that it matches, whatever the size of the pages.

* `matched`: the instances that a search matches.
* `mem_walked_iff`: a walk to the end lists the instances of its zone.
* `list_entries`: what a listing finds are the instances matched.
* `exists_walked_of_calm`, `exists_list_of_calm`: a listing that nothing disturbs succeeds.
-/

namespace GceMachines

namespace InMemory

open Lifecycle

/-! ### Pages of a zone -/

variable {size start : Nat} {all : List Instance} {i : Instance}

theorem mem_of_mem_page (h : i ∈ (page size start all).items) : i ∈ all :=
  List.mem_of_mem_drop (List.mem_of_mem_take h)

/-- The place behind a page. -/
def pageStop (size start : Nat) (all : List Instance) : Nat :=
  min ((start + size) % Nat.pow 2 64) all.length

theorem mem_page_or_behind (h : i ∈ all.drop start) :
    i ∈ (page size start all).items ∨ i ∈ all.drop (pageStop size start all) := by
  rw [← List.take_append_drop (pageStop size start all - start) (all.drop start)] at h
  rcases List.mem_append.mp h with h | h
  · exact .inl h
  · rw [List.drop_drop] at h
    exact .inr ((List.drop_sublist_drop_left all (by omega)).subset h)

theorem next?_page (size start : Nat) (all : List Instance) :
    (page size start all).next? =
      if pageStop size start all < all.length then some (toString (pageStop size start all))
      else none := by
  unfold page InstanceList.next?
  dsimp only
  split
  · next h =>
    rw [if_pos (by exact h), Option.filter_some, if_pos (by simp)]
    rfl
  · next h =>
    rw [if_neg (by exact h)]
    rfl

/-! ### Walks over a zone -/

variable {refusal : Option ServiceError} {cancelAt : Option Nat} {project zone : String}
  {token : Option String} {w w' : World InMemory} {earlier : List InstanceList}
  {last : InstanceList}

theorem page_of_handler {listed : InstanceList}
    (h : (backend refusal).handler cancelAt (.abortable (.list project zone token)) w =
      .answered (some (.ok listed)) w') :
    w'.state.instances = w.state.instances ∧ ∃ start, offset? token = some start ∧
      listed = page w.state.pageSize start (w.state.instancesIn project zone) := by
  obtain ⟨ms, hc, -⟩ := Backend.handler_abortable_eq_some _ _ h
  have hs : (w.state.list project zone token).2 = w'.state := congrArg Prod.snd hc
  have hr : Response.after 0 (w.state.list project zone token).1 = .after ms (.ok listed) :=
    congrArg Prod.fst hc
  exact ⟨by rw [← hs, instances_list], list_eq_ok (Response.after.inj hr).2⟩

theorem instancesIn_congr {m m' : InMemory} (h : m'.instances = m.instances) :
    m'.instancesIn project zone = m.instancesIn project zone := by
  unfold instancesIn
  rw [h]

theorem mem_of_walked
    (hw : Walked (backend refusal) cancelAt project zone token w earlier last w') :
    ∀ i ∈ itemsOf earlier ++ last.items, i ∈ w.state.instancesIn project zone := by
  induction hw with
  | last hl =>
    obtain ⟨-, start, -, rfl⟩ := page_of_handler hl
    exact fun i hi => mem_of_mem_page hi
  | more hl ht hw ih =>
    obtain ⟨hs, start, -, rfl⟩ := page_of_handler hl
    intro i hi
    rw [itemsOf_cons, List.append_assoc] at hi
    rcases List.mem_append.mp hi with hi | hi
    · exact mem_of_mem_page hi
    · rw [← instancesIn_congr hs]
      exact ih i hi

theorem offset?_toString (n : Nat) :
    offset? (some (toString n)) = if n < Nat.pow 2 64 then some n else none :=
  Text.readNat?_toString (by decide) n

theorem offset?_of_walked
    (hw : Walked (backend refusal) cancelAt project zone token w earlier last w') :
    ∃ start, offset? token = some start := by
  cases hw with
  | last hl =>
    obtain ⟨-, start, hstart, -⟩ := page_of_handler hl
    exact ⟨start, hstart⟩
  | more hl =>
    obtain ⟨-, start, hstart, -⟩ := page_of_handler hl
    exact ⟨start, hstart⟩

/-- **A walk to the end** goes over everything from the place of its token on. -/
theorem covers_of_walked
    (hw : Walked (backend refusal) cancelAt project zone token w earlier last w')
    (hend : last.next? = none) {start : Nat} (hstart : offset? token = some start) :
    ∀ i ∈ (w.state.instancesIn project zone).drop start, i ∈ itemsOf earlier ++ last.items := by
  induction hw generalizing start with
  | last hl =>
    obtain ⟨-, start', hs', rfl⟩ := page_of_handler hl
    rw [hstart] at hs'
    cases hs'
    intro i hi
    rcases mem_page_or_behind hi with hp | hp
    · exact hp
    · rw [next?_page] at hend
      split at hend
      · cases hend
      · next h =>
        rw [List.drop_eq_nil_of_le (Nat.not_lt.mp h)] at hp
        cases hp
  | more hl ht hw ih =>
    obtain ⟨hs, start', hs', rfl⟩ := page_of_handler hl
    rw [hstart] at hs'
    cases hs'
    intro i hi
    rw [itemsOf_cons, List.append_assoc, List.mem_append]
    rcases mem_page_or_behind hi with hp | hp
    · exact .inl hp
    · rw [next?_page] at ht
      split at ht
      · next h =>
        cases ht
        obtain ⟨next, hnext⟩ := offset?_of_walked hw
        have hplace := hnext
        rw [offset?_toString] at hplace
        split at hplace <;> cases hplace
        refine .inr (ih hend hnext i ?_)
        rw [instancesIn_congr hs]
        exact hp
      · cases ht

/-- **A walk to the end** from the first page on lists the instances of its zone. -/
theorem mem_walked_iff
    (hw : Walked (backend refusal) cancelAt project zone none w earlier last w')
    (hend : last.next? = none) :
    i ∈ itemsOf earlier ++ last.items ↔ i ∈ w.state.instancesIn project zone := by
  refine ⟨mem_of_walked hw i, fun hi => covers_of_walked hw hend rfl i ?_⟩
  rw [List.drop_zero]
  exact hi

/-! ### What a listing finds -/

/-- **The instances that a search matches**, with their machines. -/
def matched (m : InMemory) (s : Search) : List (MachineId × Instance) :=
  m.instances.entries.filter fun e =>
    e.1.project = s.project && e.1.zone = s.zone && s.wants e.2

theorem mem_matched {m : InMemory} {s : Search} {e : MachineId × Instance} :
    e ∈ m.matched s ↔ e ∈ m.instances.entries ∧ e.1.project = s.project ∧ e.1.zone = s.zone ∧
      s.wants e.2 = true := by
  simp [matched, and_assoc]

theorem exists_mem_matched {m : InMemory} {s : Search} :
    (∃ e ∈ m.matched s, e.2 = i) ↔
      i ∈ m.instancesIn s.project s.zone ∧ s.wants i = true := by
  unfold instancesIn
  rw [List.mem_map]
  constructor
  · rintro ⟨e, he, rfl⟩
    obtain ⟨hm, hp, hz, hw⟩ := mem_matched.mp he
    exact ⟨⟨e, List.mem_filter.mpr ⟨hm, by simp [hp, hz]⟩, rfl⟩, hw⟩
  · rintro ⟨⟨e, he, rfl⟩, hw⟩
    obtain ⟨hm, hk⟩ := List.mem_filter.mp he
    simp only [Bool.and_eq_true, decide_eq_true_eq] at hk
    exact ⟨e, mem_matched.mpr ⟨hm, hk.1, hk.2, hw⟩, rfl⟩

/-- **What a walk to the end finds** are the instances matched. -/
theorem mem_collect_walked {s : Search} {e : String × String}
    (hw : Walked (backend refusal) cancelAt s.project s.zone none w earlier last w')
    (hend : last.next? = none) :
    e ∈ (s.collect (itemsOf earlier ++ last.items)).entries ↔
      ∃ x ∈ w.state.matched s, e = entryOf s x.2 := by
  rw [mem_collect_iff]
  constructor
  · rintro ⟨i, hi, hwant, rfl⟩
    obtain ⟨x, hx, rfl⟩ := exists_mem_matched.mpr ⟨(mem_walked_iff hw hend).mp hi, hwant⟩
    exact ⟨x, hx, rfl⟩
  · rintro ⟨x, hx, rfl⟩
    obtain ⟨hi, hwant⟩ := exists_mem_matched.mp ⟨x, hx, rfl⟩
    exact ⟨x.2, (mem_walked_iff hw hend).mpr hi, hwant, rfl⟩

variable {limits : Limits} {spec : ProviderSpec} {secret : Secret} {found : Discovered}
  {cluster role : String}

/-- **A listing that succeeds** finds the instances matched. -/
theorem list_entries (hc : (Markers.ofTags spec.tags).complete? = some (cluster, role))
    (h : (backend refusal).run cancelAt (Lifecycle.list limits spec secret) w =
      .answered (.ok found) w') :
    ∃ project, secret.project = .ok project ∧ ∀ e, e ∈ found.entries ↔
      ∃ x ∈ w.state.matched ⟨project, spec.zone, cluster, role, none⟩,
        e = entryOf ⟨project, spec.zone, cluster, role, none⟩ x.2 := by
  obtain ⟨w₃, h⟩ := of_run_counted h
  obtain ⟨project, w₁, hen, h⟩ := Program.run_bindOk_eq_ok.mp h
  have hen := run_enter_eq_ok.mp hen
  unfold discover at h
  rw [hc] at h
  obtain ⟨earlier, last, hw, hend, rfl⟩ := exhausted_of_run rfl h
  refine ⟨project, hen.named, fun e => ?_⟩
  rw [mem_collect_walked hw hend.noNext, state_of_entered hen]

/-! ### Listings that nothing disturbs -/

/-- No failure is scripted for listings, and all sizes are numbers that the service has. -/
structure Calm (m : InMemory) : Prop where
  noFailure : m.failures.list = []
  pageSize_lt : m.pageSize < Nat.pow 2 64
  size_lt : m.instances.size < Nat.pow 2 63

theorem length_instancesIn_le (m : InMemory) (project zone : String) :
    (m.instancesIn project zone).length ≤ m.instances.size := by
  unfold instancesIn SortedMap.size
  rw [List.length_map]
  exact List.length_filter_le _ _

theorem list_of_calm {m : InMemory} (h : m.Calm) (project zone : String)
    (hs : offset? token = some start) :
    (m.list project zone token).1 = .ok (page m.pageSize start (m.instancesIn project zone)) ∧
      (m.list project zone token).2.Calm ∧
      (m.list project zone token).2.pageSize = m.pageSize := by
  unfold list
  dsimp only
  rw [h.noFailure, hs]
  exact ⟨rfl, ⟨h.noFailure, h.pageSize_lt, h.size_lt⟩, rfl⟩

theorem page_of_calm (refusal : Option ServiceError) (h : w.state.Calm) (project zone : String)
    (hs : offset? token = some start) :
    ∃ w', (backend refusal).handler none (.abortable (.list project zone token)) w =
        .answered (some (.ok (page w.state.pageSize start (w.state.instancesIn project zone)))) w' ∧
      w'.state.Calm ∧ w'.state.pageSize = w.state.pageSize ∧
      w'.state.instances = w.state.instances := by
  obtain ⟨hr, hcalm, hsize⟩ := list_of_calm h project zone hs
  have hc : (backend refusal).call (.list project zone token) w.state =
      (.after 0 (.ok (page w.state.pageSize start (w.state.instancesIn project zone))),
        (w.state.list project zone token).2) := by
    rw [← hr]
    rfl
  obtain ⟨w', hw, hs'⟩ := (backend refusal).handler_abortable_of_after rfl hc
  rw [← hs'] at hcalm hsize
  exact ⟨w', hw, hcalm, hsize, by rw [hs', instances_list]⟩

/-- A place at which a page may start without its end being too large a number. -/
def MayStart (size length start : Nat) : Prop := start = 0 ∨ start < length ∧ size < length

theorem pageStop_of_mayStart (hsize : size < Nat.pow 2 64) (hlen : all.length < Nat.pow 2 63)
    (h : MayStart size all.length start) :
    pageStop size start all = min (start + size) all.length := by
  have hpow : Nat.pow 2 64 = 2 * Nat.pow 2 63 := rfl
  unfold pageStop
  rw [Nat.mod_eq_of_lt]
  rcases h with rfl | ⟨h₁, h₂⟩ <;> omega

/-- **A walk that nothing disturbs comes to its end**, with an instance at least on every page
before the last one. -/
theorem exists_walked_of_calm (refusal : Option ServiceError) (hcalm : w.state.Calm)
    (hs : offset? token = some start)
    (hstart : MayStart w.state.pageSize (w.state.instancesIn project zone).length start) :
    ∃ earlier last w', Walked (backend refusal) none project zone token w earlier last w' ∧
      last.next? = none ∧
      earlier.length ≤ (w.state.instancesIn project zone).length - start := by
  induction hleft : (w.state.instancesIn project zone).length - start using Nat.strongRecOn
    generalizing token start w with
  | _ left ih =>
    obtain ⟨w₁, hw, hcalm₁, hsize, hsame⟩ := page_of_calm refusal hcalm project zone hs
    have hall : w₁.state.instancesIn project zone = w.state.instancesIn project zone :=
      instancesIn_congr hsame
    have hlen := Nat.lt_of_le_of_lt (length_instancesIn_le w.state project zone) hcalm.size_lt
    have hstop := pageStop_of_mayStart hcalm.pageSize_lt hlen hstart
    have hpos := w.state.pageSize_pos
    have hnext := next?_page w.state.pageSize start (w.state.instancesIn project zone)
    split at hnext
    · next hlt =>
      -- the next page starts behind this one, at a place that still fits
      have hplace : offset? (some (toString (pageStop w.state.pageSize start
          (w.state.instancesIn project zone)))) =
          some (pageStop w.state.pageSize start (w.state.instancesIn project zone)) := by
        have hpow : Nat.pow 2 64 = 2 * Nat.pow 2 63 := rfl
        rw [offset?_toString, if_pos (by omega)]
      have hstart' : MayStart w₁.state.pageSize (w₁.state.instancesIn project zone).length
          (pageStop w.state.pageSize start (w.state.instancesIn project zone)) := by
        rw [hall, hsize]
        exact .inr (by omega)
      obtain ⟨earlier, last, w', hwalk, hend, hcount⟩ :=
        ih _ (by rw [hall]; omega) hcalm₁ hplace hstart' rfl
      rw [hall] at hcount
      refine ⟨_, last, w', .more hw hnext hwalk, hend, ?_⟩
      rw [List.length_cons]
      omega
    · exact ⟨[], _, w₁, .last hw, hnext, Nat.zero_le _⟩

theorem exists_walked_to_end (refusal : Option ServiceError) (hcalm : w.state.Calm)
    (project zone : String) :
    ∃ earlier last w', Walked (backend refusal) none project zone none w earlier last w' ∧
      last.next? = none ∧ earlier.length ≤ w.state.instances.size := by
  obtain ⟨earlier, last, w', hw, hend, hcount⟩ := exists_walked_of_calm refusal hcalm
    (show offset? none = some 0 from rfl) (.inl rfl)
  exact ⟨earlier, last, w', hw, hend,
    Nat.le_trans hcount (length_instancesIn_le w.state project zone)⟩

/-- **A listing that nothing disturbs succeeds** if it may walk over enough pages. -/
theorem exists_list_of_calm {m : InMemory} (hcalm : m.Calm) (hp : secret.project = .ok project)
    (hc : (Markers.ofTags spec.tags).complete? = some (cluster, role)) (poll : PollConfig) :
    ∃ found n, ∀ pages, n ≤ pages →
      ∃ w', (backend none).run none (Lifecycle.list ⟨poll, pages⟩ spec secret) (.start m) =
        .answered (.ok found) w' := by
  obtain ⟨w₁, hcon, hm⟩ : ∃ w₁ : World InMemory, (backend none).handler none (.connect secret)
      (.start m) = .answered (.ok ()) w₁ ∧ w₁.state = m := ⟨_, rfl, rfl⟩
  obtain ⟨earlier, last, w₂, hw, hend, -⟩ :=
    exists_walked_to_end none (hm ▸ hcalm) project spec.zone
  refine ⟨catalogue project spec.zone spec.tags (itemsOf earlier ++ last.items),
    earlier.length + 1, fun pages hlen => ?_⟩
  have hcomplete : (Markers.ofTags spec.tags).complete? ≠ none := by
    rw [hc]
    nofun
  exact run_list_of_entered ⟨hp, hcon⟩ (run_discover_all hcomplete hw ⟨hend, rfl⟩ hlen)

end InMemory

end GceMachines
