import GceMachines.Proofs.Driver
import GceMachines.Proofs.InMemory.Quiet
import GceMachines.Proofs.Lifecycle.Exhaustion
import GceMachines.Proofs.Lifecycle.Opening
import GceMachines.Proofs.Lifecycle.Truncation

/-!
# The pages of a store

Nothing is lost and nothing comes twice on the pages of a zone: put one behind the other, they are
the instances of the zone in the order of their names. All pages but the last are full, and only a
zone without instances has an empty page. No token that the service hands out takes it to a place
that is too large a number. So a listing does not depend on the size of the pages.

* `Paged`: a list cut into pages.
* `paged_of_walked`, `served_of_walked`: the pages of a walk to the end, and the calls for them.
* `ascending_instancesIn`, `mem_instancesIn_iff`: the instances of a zone.
* `listing_pages_exact`: the pages of a zone for every size, and listings whatever the size.
-/

namespace GceMachines

/-! ### Lists in pages -/

/-- The number of pages of a size that some things need: their number divided by the size and
rounded up, but one at least. -/
def pageCount (size length : Nat) : Nat := max 1 ((length + size - 1) / size)

/-- **A list cut into pages**: every page but the last one is full, and none is empty unless there
is nothing to list. -/
structure Paged {α : Type} (size : Nat) (all : List α) (ps : List (List α)) : Prop where
  flatten : ps.flatten = all
  full : ∀ p ∈ ps.dropLast, p.length = size
  nonempty : [] ∈ ps → all = []
  count : ps.length = pageCount size all.length

namespace Paged

variable {α : Type} {size : Nat} {all : List α} {ps : List (List α)}

theorem single (hsize : 0 < size) (h : all.length ≤ size) : Paged size all [all] where
  flatten := List.flatten_singleton
  full := nofun
  nonempty := fun hmem => (List.mem_singleton.mp hmem).symm
  count := by
    have hone : (all.length + size - 1) / size < 2 :=
      (Nat.div_lt_iff_lt_mul hsize).mpr (by omega)
    rw [List.length_singleton, pageCount, Nat.max_eq_left (Nat.le_of_lt_succ hone)]

theorem cons {p : List α} (hsize : 0 < size) (hp : p.length = size) (hne : all ≠ [])
    (h : Paged size all ps) : Paged size (p ++ all) (p :: ps) where
  flatten := by rw [List.flatten_cons, h.flatten]
  full := by
    have hps : ps ≠ [] := by
      rintro rfl
      exact hne h.flatten.symm
    intro q hq
    rw [List.dropLast_cons_of_ne_nil hps] at hq
    rcases List.mem_cons.mp hq with rfl | hq
    · exact hp
    · exact h.full q hq
  nonempty := by
    intro hmem
    rcases List.mem_cons.mp hmem with rfl | hmem
    · exact absurd hp (Nat.ne_of_lt hsize)
    · exact absurd (h.nonempty hmem) hne
  count := by
    have hpos : 0 < all.length := List.length_pos_iff.mpr hne
    have hceil : 1 ≤ (all.length + size - 1) / size :=
      (Nat.le_div_iff_mul_le hsize).mpr (by omega)
    have hmore : (p ++ all).length + size - 1 = all.length + size - 1 + size := by
      rw [List.length_append, hp]
      omega
    rw [List.length_cons, h.count, pageCount, pageCount, hmore, Nat.add_div_right _ hsize,
      Nat.max_eq_right hceil, Nat.max_eq_right (Nat.le_add_left 1 _)]

end Paged

namespace InMemory

open Lifecycle

variable {size start : Nat} {all : List Instance} {token : Option String} {t : String}

/-! ### One page -/

theorem items_page (hsize : size < Nat.pow 2 64) (hlen : all.length < Nat.pow 2 63)
    (h : MayStart size all.length start) :
    (page size start all).items = (all.drop start).take size := by
  have hstop := pageStop_of_mayStart hsize hlen h
  have hitems : (page size start all).items =
      (all.drop start).take (pageStop size start all - start) := rfl
  rw [hitems, hstop]
  rcases Nat.le_total (start + size) all.length with hle | hle
  · rw [Nat.min_eq_left hle, Nat.add_sub_cancel_left]
  · rw [Nat.min_eq_right hle, ← List.length_drop, List.take_length, List.take_of_length_le]
    rw [List.length_drop]
    omega

/-- **A token that is handed out** stands for the place behind the page, which is no number too
large and has instances behind it. -/
theorem offset?_of_next? (hsize : size < Nat.pow 2 64) (hlen : all.length < Nat.pow 2 63)
    (h : MayStart size all.length start) (ht : (page size start all).next? = some t) :
    offset? (some t) = some (start + size) ∧ start + size < all.length := by
  have hstop := pageStop_of_mayStart hsize hlen h
  have hpow : Nat.pow 2 64 = 2 * Nat.pow 2 63 := rfl
  rw [next?_page] at ht
  split at ht
  · next hlt =>
    cases ht
    have hplace : pageStop size start all = start + size := by omega
    rw [offset?_toString, if_pos (by omega), hplace]
    exact ⟨rfl, by omega⟩
  · cases ht

theorem MayStart.next {length : Nat} (h : start + size < length) :
    MayStart size length (start + size) :=
  .inr ⟨h, Nat.lt_of_le_of_lt (Nat.le_add_left size start) h⟩

/-- The same service after some more listings. -/
def listed (m : InMemory) (n : Nat) : InMemory :=
  { m with counts := { m.counts with list := m.counts.list + n } }

theorem listed_listed (m : InMemory) (k n : Nat) : (m.listed k).listed n = m.listed (k + n) := by
  simp [listed, Nat.add_assoc]

theorem Calm.listed {m : InMemory} (h : m.Calm) (n : Nat) : (m.listed n).Calm :=
  ⟨h.noFailure, h.pageSize_lt, h.size_lt⟩

variable {refusal : Option ServiceError} {cancelAt : Option Nat} {project zone : String}
  {w w' : World InMemory} {earlier : List InstanceList} {last : InstanceList}

theorem list_eq_of_calm {m : InMemory} (h : m.Calm) (hs : offset? token = some start) :
    m.list project zone token =
      (.ok (page m.pageSize start (m.instancesIn project zone)), m.listed 1) := by
  unfold list
  dsimp only
  rw [h.noFailure, hs]
  rfl

/-- **One page of a store that nothing disturbs**, and all that it changes. -/
theorem of_page {given : InstanceList} (hcalm : w.state.Calm) (hs : offset? token = some start)
    (h : (backend refusal).handler cancelAt (.abortable (.list project zone token)) w =
      .answered (some (.ok given)) w') :
    given = page w.state.pageSize start (w.state.instancesIn project zone) ∧
      w'.state = w.state.listed 1 ∧ w'.calls = w.calls ++ [(w.now, .list project zone token)] := by
  obtain ⟨ms, hc, -⟩ := Backend.handler_abortable_eq_some _ _ h
  have hcall : (backend refusal).call (.list project zone token) w.state =
      (.after 0 (w.state.list project zone token).1, (w.state.list project zone token).2) := rfl
  rw [hcall, list_eq_of_calm hcalm hs] at hc
  obtain ⟨hreply, hstate⟩ := Prod.mk.inj hc
  obtain ⟨-, hreply⟩ := Response.after.inj hreply
  exact ⟨(Except.ok.inj hreply).symm, hstate.symm, calls_of_abortable h⟩

/-! ### Walks to the end -/

theorem length_instancesIn_lt {m : InMemory} (hcalm : m.Calm) (project zone : String) :
    (m.instancesIn project zone).length < Nat.pow 2 63 :=
  Nat.lt_of_le_of_lt (length_instancesIn_le m project zone) hcalm.size_lt

theorem add_lt_of_mayStart {m : InMemory} (hcalm : m.Calm)
    (h : MayStart m.pageSize (m.instancesIn project zone).length start) :
    start + m.pageSize < Nat.pow 2 64 := by
  have hlen := length_instancesIn_lt hcalm project zone
  have hsize := hcalm.pageSize_lt
  have hpow : Nat.pow 2 64 = 2 * Nat.pow 2 63 := rfl
  rcases h with rfl | ⟨h₁, h₂⟩ <;> omega

/-- **The pages of a walk to the end** cut up what is listed from its token on. -/
theorem paged_of_walked
    (hw : Walked (backend refusal) cancelAt project zone token w earlier last w')
    (hend : last.next? = none) (hcalm : w.state.Calm) (hs : offset? token = some start)
    (hstart : MayStart w.state.pageSize (w.state.instancesIn project zone).length start) :
    Paged w.state.pageSize ((w.state.instancesIn project zone).drop start)
      ((earlier ++ [last]).map InstanceList.items) := by
  induction hw generalizing start with
  | @last token w w' page hl =>
    obtain ⟨rfl, -, -⟩ := of_page hcalm hs hl
    have hlen := length_instancesIn_lt hcalm project zone
    have hfits := pageStop_of_mayStart hcalm.pageSize_lt hlen hstart
    rw [next?_page] at hend
    split at hend
    · cases hend
    · next hnot =>
      have hrest : ((w.state.instancesIn project zone).drop start).length ≤ w.state.pageSize := by
        rw [List.length_drop]
        omega
      rw [List.nil_append, List.map_singleton, items_page hcalm.pageSize_lt hlen hstart,
        List.take_of_length_le hrest]
      exact .single w.state.pageSize_pos hrest
  | @more token t w w₁ w' page last earlier hl ht hw ih =>
    obtain ⟨rfl, hstate, -⟩ := of_page hcalm hs hl
    have hlen := length_instancesIn_lt hcalm project zone
    obtain ⟨hs₁, hlt⟩ := offset?_of_next? hcalm.pageSize_lt hlen hstart ht
    rw [hstate] at ih
    have hpaged := ih hend (hcalm.listed 1) hs₁ (.next hlt)
    have hpage := items_page hcalm.pageSize_lt hlen hstart
    rw [← List.take_append_drop w.state.pageSize ((w.state.instancesIn project zone).drop start),
      List.drop_drop, ← hpage]
    refine hpaged.cons w.state.pageSize_pos ?_ ?_
    · rw [hpage, List.length_take, List.length_drop]
      omega
    · intro hnil
      have := List.drop_eq_nil_iff.mp hnil
      omega

/-- **The calls of a walk to the end**, and what they change: each takes the service to a place
that is no number too large, and all that is left of them is their count. -/
theorem served_of_walked
    (hw : Walked (backend refusal) cancelAt project zone token w earlier last w')
    (hcalm : w.state.Calm) (hs : offset? token = some start)
    (hstart : MayStart w.state.pageSize (w.state.instancesIn project zone).length start) :
    w'.state = w.state.listed (earlier.length + 1) ∧
      ∃ calls, w'.calls = w.calls ++ calls ∧ calls.length = earlier.length + 1 ∧
        ∀ e ∈ calls, ∃ token start, e.2 = .list project zone token ∧
          offset? token = some start ∧ start + w.state.pageSize < Nat.pow 2 64 := by
  induction hw generalizing start with
  | @last token w w' page hl =>
    obtain ⟨-, hstate, hcalls⟩ := of_page hcalm hs hl
    refine ⟨hstate, _, hcalls, rfl, fun e he => ?_⟩
    obtain rfl := List.mem_singleton.mp he
    exact ⟨_, start, rfl, hs, add_lt_of_mayStart hcalm hstart⟩
  | @more token t w w₁ w' page last earlier hl ht hw ih =>
    obtain ⟨rfl, hstate, hcalls⟩ := of_page hcalm hs hl
    obtain ⟨hs₁, hlt⟩ := offset?_of_next? hcalm.pageSize_lt
      (length_instancesIn_lt hcalm project zone) hstart ht
    rw [hstate] at ih
    obtain ⟨hstate', calls, hcalls', hcount, hplaces⟩ := ih (hcalm.listed 1) hs₁ (.next hlt)
    refine ⟨?_, (w.now, .list project zone token) :: calls, ?_, ?_, ?_⟩
    · rw [hstate', listed_listed, List.length_cons, Nat.add_comm 1]
    · rw [hcalls', hcalls, List.append_assoc]
      rfl
    · rw [List.length_cons, List.length_cons, hcount]
    · intro e he
      rcases List.mem_cons.mp he with rfl | he
      · exact ⟨token, start, rfl, hs, add_lt_of_mayStart hcalm hstart⟩
      · exact hplaces e he

/-- **A walk over the pages of a zone** that nothing disturbs. -/
theorem run_pages_of_calm {m : InMemory} {allowance : Nat} (refusal : Option ServiceError)
    (cancelAt : Option Nat) (hcalm : m.Calm)
    (hallow : pageCount m.pageSize (m.instancesIn project zone).length ≤ allowance) :
    ∃ ps w, (backend refusal).run cancelAt (pages project zone allowance none none) (.start m) =
        .answered (ps, .exhausted) w ∧
      Paged m.pageSize (m.instancesIn project zone) ps ∧ w.calls.length = ps.length ∧
      (∀ e ∈ w.calls, ∃ token start, e.2 = .list project zone token ∧
        offset? token = some start ∧ start + m.pageSize < Nat.pow 2 64) ∧
      w.state = m.listed ps.length := by
  obtain ⟨earlier, last, w, hw, hend, -⟩ :=
    exists_walked_to_end (w := .start m) refusal hcalm project zone
  have hpaged : Paged m.pageSize (m.instancesIn project zone)
      ((earlier ++ [last]).map InstanceList.items) :=
    paged_of_walked hw hend hcalm rfl (.inl rfl)
  obtain ⟨hstate, calls, hcalls, hcount, hplaces⟩ := served_of_walked hw hcalm rfl (.inl rfl)
  obtain rfl : calls = w.calls := hcalls.symm
  have hlength : ((earlier ++ [last]).map InstanceList.items).length = earlier.length + 1 := by
    rw [List.length_map, List.length_append, List.length_singleton]
  have hwalk : earlier.length < allowance := by
    refine Nat.lt_of_lt_of_le ?_ hallow
    rw [← hpaged.count, hlength]
    exact Nat.lt_succ_self _
  refine ⟨_, w, hw.run_pages hend hwalk cancelAt, hpaged, ?_, hplaces, ?_⟩
  · rw [hcount, hlength]
  · rw [hstate, hlength]
    rfl

/-! ### The instances of a zone -/

/-- **The instances of a zone stand in the order of their names.** -/
theorem ascending_instancesIn (m : InMemory) (project zone : String) :
    ((m.instancesIn project zone).map Instance.name).Pairwise (· < ·) := by
  rw [instancesIn, List.map_map, List.pairwise_map]
  refine List.Pairwise.imp_of_mem ?_ (m.instances.sorted.filter _)
  intro a b ha hb hlt
  obtain ⟨hma, hka⟩ := List.mem_filter.mp ha
  obtain ⟨hmb, hkb⟩ := List.mem_filter.mp hb
  simp only [Bool.and_eq_true, decide_eq_true_eq] at hka hkb
  rw [Function.comp_apply, Function.comp_apply, ← m.named a hma, ← m.named b hmb]
  -- both have the same project and zone, so only the names can tell them apart
  rcases hlt with hp | ⟨-, hz | ⟨-, hn⟩⟩
  · rw [hka.1, hkb.1] at hp
    exact absurd hp (String.lt_irrefl _)
  · rw [hka.2, hkb.2] at hz
    exact absurd hz (String.lt_irrefl _)
  · exact hn

/-- **The instances of a zone** are those that stand there under their names. -/
theorem mem_instancesIn_iff {m : InMemory} {i : Instance} :
    i ∈ m.instancesIn project zone ↔ m.instances.get? ⟨project, zone, i.name⟩ = some i := by
  rw [SortedMap.get?_eq_some_iff, instancesIn, List.mem_map]
  constructor
  · rintro ⟨⟨k, i'⟩, he, rfl⟩
    obtain ⟨hm, hk⟩ := List.mem_filter.mp he
    simp only [Bool.and_eq_true, decide_eq_true_eq] at hk
    have hname : k.name = i'.name := m.named _ hm
    have hkey : k = ⟨project, zone, i'.name⟩ := by
      rw [← hk.1, ← hk.2, ← hname]
    rw [← hkey]
    exact hm
  · intro hm
    exact ⟨_, List.mem_filter.mpr ⟨hm, by simp⟩, rfl⟩

/-! ### Listings whatever the size of pages -/

/-- The same store with pages of another size, of at least one. -/
def resized (m : InMemory) (pageSize : Nat) : InMemory :=
  { m with
    pageSize := max pageSize 1
    pageSize_pos := by omega }

theorem calm_resized {m : InMemory} {n : Nat} (hfail : m.failures.list = [])
    (hsize : m.instances.size < Nat.pow 2 63) (hn : n < Nat.pow 2 64) : (m.resized n).Calm :=
  ⟨hfail, Nat.max_lt.mpr ⟨hn, by decide⟩, hsize⟩

/-- **What a listing comes to**, if nothing but a cancellation disturbs it. A listing takes no time,
so it is cancelled from the beginning or not at all. -/
def listing (refusal : Option ServiceError) (cancelAt : Option Nat) (spec : ProviderSpec)
    (secret : Secret) (m : InMemory) : Except MachineError Discovered :=
  match secret.project, refusal with
  | .error e, _ => .error e
  | .ok _, some e => .error e.toMachineError
  | .ok project, none =>
    if (Markers.ofTags spec.tags).complete? = none then .ok .empty
    else if cancelAt = some 0 then .error (.cancelled ("list instances in " ++ spec.zone))
    else .ok (catalogue project spec.zone spec.tags (m.instancesIn project spec.zone))

theorem flatten_pages : ((earlier ++ [last]).map InstanceList.items).flatten =
    itemsOf earlier ++ last.items := by
  simp [itemsOf, List.flatMap]

/-- A walk takes no time, so a later cancellation does not cut it short. -/
theorem walked_of_later (hc : ∀ c ∈ cancelAt, w.now < c)
    (hw : Walked (backend refusal) none project zone token w earlier last w') :
    Walked (backend refusal) cancelAt project zone token w earlier last w' := by
  induction hw with
  | last hl =>
    rw [← now_of_walked (.last hl)] at hc
    exact .last (Backend.handler_abortable_of_inTime _ _ hl hc)
  | more hl ht hw ih =>
    rw [← now_of_walked (.last hl)] at hc
    exact .more (Backend.handler_abortable_of_inTime _ _ hl hc) ht (ih hc)

theorem run_discover_of_calm {tags : List String} {n : Nat} (hcalm : w.state.Calm)
    (hlater : ∀ c ∈ cancelAt, w.now < c) (hc : (Markers.ofTags tags).complete? ≠ none)
    (hn : w.state.instances.size < n) :
    ∃ w', (discover n project zone tags none).run ((backend refusal).handler cancelAt) w =
      .answered (.ok (catalogue project zone tags (w.state.instancesIn project zone))) w' := by
  obtain ⟨earlier, last, w', hw, hend, hcount⟩ :=
    exists_walked_to_end refusal hcalm project zone
  have hflat := (paged_of_walked hw hend hcalm rfl (.inl rfl)).flatten
  rw [flatten_pages, List.drop_zero] at hflat
  rw [← hflat]
  have hopen : (backend refusal).isCancelled cancelAt w' = false := by
    cases cancelAt with
    | none => rfl
    | some c =>
      rw [Backend.isCancelled_of_lt _ c (now_of_walked hw ▸ hlater c rfl)]
      rfl
  exact ⟨w', run_discover_all hc (walked_of_later hlater hw) ⟨hend, hopen⟩
    (Nat.lt_of_le_of_lt hcount hn)⟩

theorem run_discover_of_cancelled {tags : List String} {n : Nat} (hn : 0 < n)
    (hc : (Markers.ofTags tags).complete? ≠ none) (w : World InMemory) :
    (discover n project zone tags none).run ((backend refusal).handler (some 0)) w =
      .answered (.error (.cancelled ("list instances in " ++ zone))) w := by
  obtain ⟨⟨cluster, role⟩, hmarkers⟩ := Option.ne_none_iff_exists'.mp hc
  obtain ⟨n, rfl⟩ := Nat.exists_eq_add_one_of_ne_zero (Nat.ne_zero_of_lt hn)
  have hask : (backend refusal).handler (some 0) (.abortable (.list project zone none)) w =
      .answered none w := by
    simp only [Backend.handler, Backend.waitFor, Backend.isCancelled_of_le _ 0 (Nat.zero_le w.now)]
    rfl
  rw [discover, hmarkers]
  exact Program.run_ask_of_answered _ hask

/-- **A listing that nothing but a cancellation disturbs.** -/
theorem run_list_of_calm {m : InMemory} {limits : Limits} (refusal : Option ServiceError)
    (cancelAt : Option Nat) (spec : ProviderSpec) (secret : Secret) (hcalm : m.Calm)
    (hpages : m.instances.size < limits.pages) :
    ∃ w, (backend refusal).run cancelAt (Lifecycle.list limits spec secret) (.start m) =
      .answered (listing refusal cancelAt spec secret m) w := by
  unfold listing
  cases hp : secret.project with
  | error e =>
    have hout : RuledOut e (Lifecycle.list limits spec secret) := ruledOut_entering hp
    obtain ⟨ms, hrun⟩ := hout
    exact ⟨_, hrun (backend refusal) cancelAt (.start m)⟩
  | ok project =>
    cases refusal with
    | some e => exact failsPlainly_of_refused hp rfl
    | none =>
      obtain ⟨w₁, hcon, rfl, hnow⟩ : ∃ w₁ : World InMemory,
          (backend none).handler cancelAt (.connect secret) (.start m) = .answered (.ok ()) w₁ ∧
            w₁.state = m ∧ w₁.now = 0 := ⟨_, rfl, rfl, rfl⟩
      dsimp only
      split
      · next hc =>
        exact run_list_of_entered ⟨hp, hcon⟩ (run_discover_of_incomplete hc none w₁)
      · next hc =>
        split
        · next hstart =>
          subst hstart
          have hpos : 0 < limits.pages := Nat.lt_of_le_of_lt (Nat.zero_le _) hpages
          exact run_list_of_entered ⟨hp, hcon⟩ (run_discover_of_cancelled hpos hc w₁)
        · next hlater =>
          have hcut : ∀ c ∈ cancelAt, w₁.now < c := by
            rintro c rfl
            rw [hnow]
            exact Nat.pos_of_ne_zero fun hzero => hlater (congrArg some hzero)
          obtain ⟨w', hd⟩ := run_discover_of_calm hcalm hcut hc hpages
          exact run_list_of_entered ⟨hp, hcon⟩ hd

/-- **The pages of a zone**, for every size of pages and every number of instances that the
service can have. If no failure is scripted for listings, a walk over the pages of a zone ends, and
its pages are the instances of that zone and of no other, each once and in the order of their
names. All pages but the last have as many instances as the size says, or one if it says none; a
page is empty only in a zone without instances, and the number of pages is the number of instances
divided by the size and rounded up, or one. There is one call for each page, no call takes the
service to a place from which a page would end beyond its numbers, and nothing else changes but the
count of the calls. What a listing of machines comes to is therefore the same for all sizes,
whenever it is cancelled. -/
theorem listing_pages_exact (m : InMemory) (hfail : m.failures.list = [])
    (hsize : m.instances.size < Nat.pow 2 63) :
    (∀ (refusal : Option ServiceError) (cancelAt : Option Nat) (project zone : String)
      (n allowance : Nat), n < Nat.pow 2 64 →
      pageCount (max n 1) (m.instancesIn project zone).length ≤ allowance →
      ∃ ps w, (backend refusal).run cancelAt (pages project zone allowance none none)
          (.start (m.resized n)) = .answered (ps, .exhausted) w ∧
        ps.flatten = m.instancesIn project zone ∧
        ((m.instancesIn project zone).map Instance.name).Pairwise (· < ·) ∧
        (∀ i, i ∈ m.instancesIn project zone ↔
          m.instances.get? ⟨project, zone, i.name⟩ = some i) ∧
        (∀ p ∈ ps.dropLast, p.length = max n 1) ∧
        ([] ∈ ps → m.instancesIn project zone = []) ∧
        w.calls.length = pageCount (max n 1) (m.instancesIn project zone).length ∧
        ps.length = w.calls.length ∧
        (∀ e ∈ w.calls, ∃ token start, e.2 = .list project zone token ∧
          offset? token = some start ∧ start + max n 1 < Nat.pow 2 64) ∧
        w.state = (m.resized n).listed ps.length) ∧
    ∀ (refusal : Option ServiceError) (cancelAt : Option Nat) (limits : Limits)
      (text : List UInt8) (secret : Secret), m.instances.size < limits.pages →
      ∃ result, ∀ n < Nat.pow 2 64, ∃ w,
        (backend refusal).run cancelAt (Driver.list limits text secret) (.start (m.resized n)) =
          .answered result w := by
  constructor
  · intro refusal cancelAt project zone n allowance hn hallow
    obtain ⟨ps, w, hrun, hpaged, hcalls, hplaces, hstate⟩ :=
      run_pages_of_calm refusal cancelAt (calm_resized hfail hsize hn) hallow
    exact ⟨ps, w, hrun, hpaged.flatten, ascending_instancesIn m project zone,
      fun i => mem_instancesIn_iff, hpaged.full, hpaged.nonempty, hcalls.trans hpaged.count,
      hcalls.symm, hplaces, hstate⟩
  · intro refusal cancelAt limits text secret hpages
    cases ha : Admission.accept text secret with
    | error e =>
      refine ⟨.error (.ofCause "List machines" e), fun n hn => ⟨.start (m.resized n), ?_⟩⟩
      exact Driver.run_gated_iff.mpr (.inl ⟨e, ha, rfl, rfl⟩)
    | ok spec =>
      refine ⟨Driver.told "List machines" (⟨·⟩) (listing refusal cancelAt spec secret m),
        fun n hn => ?_⟩
      obtain ⟨w, hrun⟩ :=
        run_list_of_calm refusal cancelAt spec secret (calm_resized hfail hsize hn) hpages
      exact ⟨w, Driver.run_gated_iff.mpr (.inr ⟨spec, _, ha, hrun, rfl⟩)⟩

/-- Three machines in a zone, and one in another. -/
def twoZones : InMemory :=
  ((((new 1 0).addTagged "p" "z" "b" []).addTagged "p" "y" "b" []).addTagged "p" "z" "c"
    []).addTagged "p" "z" "a" []

/-- The three machines come on two pages of two. -/
theorem twoZones_pages_exact :
    twoZones.failures.list = [] ∧ twoZones.instances.size < Nat.pow 2 63 ∧
      ∃ ps w, (backend none).run none (pages "p" "z" 2 none none) (.start (twoZones.resized 2)) =
          .answered (ps, .exhausted) w ∧
        ps.flatten.map Instance.name = ["a", "b", "c"] ∧ ps.length = 2 := by
  have hsize : twoZones.instances.size < Nat.pow 2 63 := by decide
  obtain ⟨ps, w, hrun, hflat, -, -, -, -, hcount, hlength, -⟩ :=
    (listing_pages_exact twoZones rfl hsize).1 none none "p" "z" 2 2 (by decide) (by decide)
  refine ⟨rfl, hsize, ps, w, hrun, ?_, hlength.trans (hcount.trans (by decide))⟩
  rw [hflat]
  decide

end InMemory

end GceMachines
