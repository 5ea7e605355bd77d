import GceMachines.Proofs.Crowd.Attempts
import GceMachines.Proofs.InMemory.Listing
import GceMachines.Proofs.Lifecycle.Located

/-!
# Walks among other callers

The token of a page is a place in the listing of a zone. When a machine in front of that place is
deleted, all machines behind it move up by one, and the next page begins too late by one. So a
search that lists several pages may miss a machine that is there all the time. It misses none in any
other way.

* `Shrunk`: a service from which machines are only taken out.
* `Change.Overtakes`, `Journal.Overtaken`: a deletion in front of a machine, between two pages.
* `OnWay`: a walk on its way to a machine; `OnWay.record`, `OnWay.next`: what keeps it there.
* `secure_walk`: a search among others finds its machine, unless it is gone or was missed.
-/

namespace GceMachines

open InMemory (Quiet page pageStop offset?)
open Journal (Meanwhile Around Recorded)
open Lifecycle

variable {P : Nat → Request → Prop} {i k size start : Nat} {m : InMemory} {j j' : Journal}
  {r : Request} {t : MachineId} {w w' : World Journal}

/-- The listing in which a machine stands. -/
abbrev InMemory.listingOf (m : InMemory) (t : MachineId) : List Instance :=
  m.instancesIn t.project t.zone

theorem InMemory.length_listingOf_le (m : InMemory) (t : MachineId) :
    (m.listingOf t).length ≤ m.instances.size :=
  m.length_instancesIn_le t.project t.zone

/-! ### A store that shrinks -/

/-- A call asks for no insertion. -/
def Request.InsertsNothing (r : Request) : Prop := ∀ t, r.asks? ≠ some (.insertion, t)

/-- **What such a call makes of the instances**: one of them may be taken out. -/
theorem instances_record (hr : r.InsertsNothing) (i : Nat) (j : Journal) :
    (j.record i r).service.instances = j.service.instances ∨
      ∃ ch, j.service.change? r = some ch ∧ ch.kind = .deletion ∧ ch.outcome = none ∧
        (j.record i r).service.instances = j.service.instances.erase ch.target := by
  rw [Journal.service_record]
  cases hc : j.service.change? r with
  | none => exact .inl (InMemory.unmade_of_change? hc).instances_eq
  | some ch =>
    have hm := InMemory.made_of_change? hc
    have hkind : ch.kind = .deletion := by
      cases hk : ch.kind with
      | deletion => rfl
      | insertion => exact absurd (InMemory.asks?_of_change? hc).1 (hk ▸ hr ch.target)
    cases ho : ch.outcome with
    | some errors => exact .inl (hm.failed (by rw [ho]; rfl))
    | none => exact .inr ⟨ch, rfl, hkind, ho, hm.erased hkind ho⟩

/-- **A service from which machines were only taken out** since it was `m`. -/
structure Shrunk (size looks : Nat) (m : InMemory) (j : Journal) : Prop where
  quiet : j.service.Quiet size looks
  sublist : j.service.instances.entries.Sublist m.instances.entries

theorem Shrunk.record (h : Shrunk size k m j) (hr : r.InsertsNothing) (i : Nat) :
    Shrunk size k m (j.record i r) := by
  refine ⟨h.quiet.answer r, ?_⟩
  rcases instances_record hr i j with hs | ⟨ch, -, -, -, hs⟩
  · exact hs ▸ h.sublist
  · exact hs ▸ List.filter_sublist.trans h.sublist

/-- Calls were recorded that insert nothing. -/
abbrev Shrinks : Journal → Journal → Prop := Recorded fun _ r => r.InsertsNothing

theorem Journal.Around.shrinks (hP : ∀ i r, P i r → r.InsertsNothing)
    (h : Around P i Request.Reads j j') : Shrinks j j' := by
  refine Recorded.mono (fun k r hr => ?_) h
  split at hr
  · intro t
    rw [Request.asks?_of_reads hr]
    nofun
  · exact hP k r hr

theorem Shrunk.recorded (h : Shrunk size k m j) (hr : Shrinks j j') : Shrunk size k m j' :=
  hr.keeps (I := Shrunk size k m) (fun i _ _ hi h => h.record hi i) h

theorem Shrunk.get?_eq (h : Shrunk size k m j) {inst : Instance}
    (hi : j.service.instances.get? t = some inst) : m.instances.get? t = some inst :=
  SortedMap.get?_eq_some_iff.mpr (h.sublist.subset (SortedMap.get?_eq_some_iff.mp hi))

theorem Shrunk.length_le (h : Shrunk size k m j) (t : MachineId) :
    (j.service.listingOf t).length ≤ (m.listingOf t).length :=
  ((h.sublist.filter _).map _).length_le

/-! ### Places in a zone -/

namespace InMemory

/-- The machines of a zone, in the order in which they are listed. -/
def zoneOf (m : InMemory) (project zone : String) : List (MachineId × Instance) :=
  m.instances.entries.filter fun e => e.1.project = project && e.1.zone = zone

/-- **The place of a machine** in its zone: how many are in front of it. -/
def place (m : InMemory) (t : MachineId) : Nat :=
  (m.zoneOf t.project t.zone).countP fun e => e.1 < t

theorem listingOf_eq (m : InMemory) (t : MachineId) :
    m.listingOf t = (m.zoneOf t.project t.zone).map Prod.snd := rfl

theorem mem_zoneOf {inst : Instance} (h : m.instances.get? t = some inst) :
    (t, inst) ∈ m.zoneOf t.project t.zone :=
  List.mem_filter.mpr ⟨SortedMap.get?_eq_some_iff.mp h, by simp⟩

/-- **A machine is behind a start** in the listing if its place is. -/
theorem mem_drop_iff {inst : Instance} (h : m.instances.get? t = some inst) (start : Nat) :
    inst ∈ (m.listingOf t).drop start ↔ start ≤ m.place t := by
  have hsorted : Ascending (m.zoneOf t.project t.zone) := m.instances.sorted.filter _
  unfold place
  rw [← hsorted.mem_drop_iff (mem_zoneOf h), listingOf_eq, ← List.map_drop, List.mem_map]
  constructor
  · rintro ⟨⟨t', inst'⟩, he, rfl⟩
    have hz := List.mem_of_mem_drop he
    obtain ⟨hmem, hkey⟩ := List.mem_filter.mp hz
    simp only [Bool.and_eq_true, decide_eq_true_eq] at hkey
    have hname : t'.name = t.name :=
      (m.named _ hmem).trans (m.named _ (SortedMap.get?_eq_some_iff.mp h)).symm
    have ht : t' = t := by
      obtain ⟨p, z, n⟩ := t'
      obtain ⟨p', z', n'⟩ := t
      simp_all
    exact ht ▸ he
  · exact fun he => ⟨_, he, rfl⟩

theorem place_congr {m' : InMemory} (h : m'.instances = m.instances) (t : MachineId) :
    m'.place t = m.place t := by
  unfold place zoneOf
  rw [h]

end InMemory

/-! ### Deletions in front of a machine -/

/-- **A deletion takes effect in front of a machine**, in the same zone. -/
def Change.Overtakes (t : MachineId) (ch : Change) : Prop :=
  ch.kind = .deletion ∧ ch.target.project = t.project ∧ ch.target.zone = t.zone ∧
    ch.target.name < t.name ∧ ch.outcome = none

theorem MachineId.name_lt {a b : MachineId} (hp : a.project = b.project) (hz : a.zone = b.zone)
    (h : a < b) : a.name < b.name := by
  rcases h with h | ⟨-, h | ⟨-, h⟩⟩
  · exact absurd (hp ▸ h) (String.lt_irrefl _)
  · exact absurd (hz ▸ h) (String.lt_irrefl _)
  · exact h

/-- **The place of a machine** stays as it is, unless a deletion takes effect in front of it. -/
theorem place_record (hr : r.InsertsNothing) (i : Nat) (t : MachineId) (j : Journal) :
    (j.record i r).service.place t = j.service.place t ∨
      ∃ ch, j.service.change? r = some ch ∧ ch.Overtakes t := by
  rcases instances_record hr i j with hs | ⟨ch, hch, hkind, hout, hs⟩
  · exact .inl (InMemory.place_congr hs t)
  · by_cases ho : ch.Overtakes t
    · exact .inr ⟨ch, hch, ho⟩
    · left
      unfold InMemory.place InMemory.zoneOf
      rw [hs, SortedMap.erase, List.countP_filter, List.countP_filter, List.countP_filter]
      refine List.countP_congr fun e _ => ?_
      have hother : e.1 < t → e.1.project = t.project → e.1.zone = t.zone → e.1 ≠ ch.target := by
        rintro hlt hp hz he
        refine ho ⟨hkind, he ▸ hp, he ▸ hz, ?_, hout⟩
        exact he ▸ MachineId.name_lt hp hz hlt
      simp only [Bool.and_eq_true, decide_eq_true_eq]
      constructor
      · rintro ⟨⟨hlt, hzone⟩, -⟩
        exact ⟨hlt, hzone⟩
      · rintro ⟨hlt, hzone⟩
        exact ⟨⟨hlt, hzone⟩, hother hlt hzone.1 hzone.2⟩

/-- A call that lists a page. -/
def Request.Lists : Request → Prop
  | .list _ _ _ => True
  | _ => False

/-- A caller lists a page. -/
def Visit.ListsFor (i : Nat) (v : Visit) : Prop := v.caller = i ∧ v.request.Lists

/-- A deletion that was accepted takes effect in front of a machine. -/
def Visit.Overtakes (t : MachineId) (v : Visit) : Prop := ∃ ch ∈ v.change, ch.Overtakes t

namespace Journal

/-- A caller has listed a page. -/
def Listed (i : Nat) (j : Journal) : Prop := ∃ v ∈ j.visits, v.ListsFor i

/-- Behind a page of a caller, a deletion took effect in front of a machine. -/
def Passed (i : Nat) (t : MachineId) (j : Journal) : Prop :=
  ∃ v₁ v₂, [v₁, v₂].Sublist j.visits ∧ v₁.ListsFor i ∧ v₂.Overtakes t

/-- **Between two pages of a caller, a deletion took effect in front of a machine.** -/
def Overtaken (i : Nat) (t : MachineId) (j : Journal) : Prop :=
  ∃ v₁ v₂ v₃, [v₁, v₂, v₃].Sublist j.visits ∧ v₁.ListsFor i ∧ v₂.Overtakes t ∧ v₃.ListsFor i

theorem visits_sublist (h : Recorded P j j') : j.visits.Sublist j'.visits :=
  h.keeps (I := fun j' => j.visits.Sublist j'.visits)
    (fun _ _ _ _ hj => hj.trans (List.sublist_append_left _ _)) (.refl _)

theorem Listed.mono (hl : j.Listed i) (h : j.visits.Sublist j'.visits) : j'.Listed i := by
  obtain ⟨v, hv, hlist⟩ := hl
  exact ⟨v, h.subset hv, hlist⟩

theorem Passed.mono (hp : j.Passed i t) (h : j.visits.Sublist j'.visits) : j'.Passed i t := by
  obtain ⟨v₁, v₂, hv, hrest⟩ := hp
  exact ⟨v₁, v₂, hv.trans h, hrest⟩

theorem Overtaken.mono (ho : j.Overtaken i t) (h : j.visits.Sublist j'.visits) :
    j'.Overtaken i t := by
  obtain ⟨v₁, v₂, v₃, hv, hrest⟩ := ho
  exact ⟨v₁, v₂, v₃, hv.trans h, hrest⟩

theorem listed_record (hr : r.Lists) (i : Nat) (j : Journal) : (j.record i r).Listed i :=
  ⟨_, List.mem_append_right _ (.head _), rfl, hr⟩

theorem Listed.passed (hl : j.Listed i) {ch : Change} (hch : j.service.change? r = some ch)
    (ho : ch.Overtakes t) (k : Nat) : (j.record k r).Passed i t := by
  obtain ⟨v, hv, hlist⟩ := hl
  refine ⟨v, ⟨k, r, j.service.change? r⟩, ?_, hlist, ch, hch, ho⟩
  exact (List.singleton_sublist.mpr hv).append (.refl _)

theorem Passed.overtaken (hp : j.Passed i t) (hr : r.Lists) : (j.record i r).Overtaken i t := by
  obtain ⟨v₁, v₂, hv, hlist, ho⟩ := hp
  exact ⟨v₁, v₂, _, hv.append (.refl _), hlist, ho, rfl, hr⟩

end Journal

/-! ### On the way to a machine -/

/-- **A walk on its way to a machine**, at a start in the listing: only machines were taken out
since the service was `m`, and if the machine is still there, the start is not behind it unless a
deletion in front of it has taken effect since the first page. -/
structure OnWay (size looks : Nat) (m : InMemory) (i : Nat) (t : MachineId) (start : Nat)
    (j : Journal) : Prop extends Shrunk size looks m j where
  begun : start = 0 ∨
    j.Listed i ∧ size < (m.listingOf t).length ∧ start < m.instances.size
  reaches : ∀ inst, j.service.instances.get? t = some inst →
    start ≤ j.service.place t ∨ j.Passed i t

/-- **A machine was missed**: its zone has more than one page, and between two pages of the caller
a deletion took effect in front of it. -/
structure Missed (size : Nat) (m : InMemory) (i : Nat) (t : MachineId) (j : Journal) : Prop where
  morePages : size < (m.listingOf t).length
  overtaken : j.Overtaken i t

/-- Why a search does not find a machine: it is gone, or was missed. -/
def Unfound (size : Nat) (m : InMemory) (i : Nat) (t : MachineId) (j : Journal) : Prop :=
  j.service.instances.get? t = none ∨ Missed size m i t j

theorem Unfound.recorded (h : Unfound size m i t j) (hr : Shrinks j j') :
    Unfound size m i t j' :=
  h.imp (Journal.absent_of_recorded (fun _ _ hi => hi t) hr)
    fun hm => ⟨hm.morePages, hm.overtaken.mono (Journal.visits_sublist hr)⟩

namespace OnWay

theorem first (h : Shrunk size k m j) (i : Nat) (t : MachineId) : OnWay size k m i t 0 j :=
  ⟨h, .inl rfl, fun _ _ => .inl (Nat.zero_le _)⟩

/-- **No call that inserts nothing** takes a walk off its way. -/
theorem record (h : OnWay size k m i t start j) (hr : r.InsertsNothing) (k' : Nat) :
    OnWay size k m i t start (j.record k' r) := by
  have hvisits : j.visits.Sublist (j.record k' r).visits := List.sublist_append_left _ _
  refine ⟨h.toShrunk.record hr k', h.begun.imp_right fun hb => ⟨hb.1.mono hvisits, hb.2⟩,
    fun inst hi => ?_⟩
  have hbefore : Shrunk size k j.service (j.record k' r) :=
    Shrunk.record ⟨h.quiet, .refl _⟩ hr k'
  rcases h.reaches inst (hbefore.get?_eq hi) with hplace | hpassed
  · rcases place_record hr k' t j with hsame | ⟨ch, hch, ho⟩
    · exact .inl (hsame ▸ hplace)
    · -- the first page begins in front of everything, and behind it the deletion counts
      rcases h.begun with rfl | ⟨hlisted, -⟩
      · exact .inl (Nat.zero_le _)
      · exact .inr (hlisted.passed hch ho k')
  · exact .inr (hpassed.mono hvisits)

theorem recorded (h : OnWay size k m i t start j) (hr : Shrinks j j') :
    OnWay size k m i t start j' :=
  hr.keeps (I := OnWay size k m i t start) (fun k' _ _ hk h => h.record hk k') h

theorem pageStop_eq (h : OnWay size k m i t start j) (hsize : size < Nat.pow 2 64)
    (hroom : m.instances.size < Nat.pow 2 63) (all : List Instance) :
    pageStop size start all = min (start + size) all.length := by
  have hpow : Nat.pow 2 64 = 2 * Nat.pow 2 63 := rfl
  have hlen := m.length_listingOf_le t
  unfold pageStop
  rw [Nat.mod_eq_of_lt]
  rcases h.begun with rfl | ⟨-, hmore, hstart⟩ <;> omega

theorem start_lt (h : OnWay size k m i t start j) (hsize : size < Nat.pow 2 64)
    (hroom : m.instances.size < Nat.pow 2 63) {all : List Instance}
    (hlt : pageStop size start all < all.length) : start < pageStop size start all := by
  have hstop := h.pageStop_eq hsize hroom all
  have hpos := h.quiet.pageSize_eq ▸ j.service.pageSize_pos
  omega

theorem offset?_next (h : OnWay size k m i t start j) (hroom : m.instances.size < Nat.pow 2 63)
    {place : Nat} (hlt : place < (j.service.listingOf t).length) :
    offset? (some (toString place)) = some place := by
  have hpow : Nat.pow 2 64 = 2 * Nat.pow 2 63 := rfl
  have hle := h.length_le t
  have hall := m.length_listingOf_le t
  rw [InMemory.offset?_toString, if_pos (by omega)]

/-- **A machine that is there** is on the page that comes next or behind it, or a deletion in front
of it has taken effect since the first page. -/
theorem ahead (h : OnWay size k m i t start j) {inst : Instance}
    (hi : j.service.instances.get? t = some inst) :
    inst ∈ (page size start (j.service.listingOf t)).items ∨
      inst ∈ (j.service.listingOf t).drop
        (pageStop size start (j.service.listingOf t)) ∨
      size < (m.listingOf t).length ∧ j.Passed i t := by
  have hreaches : start ≤ j.service.place t ∨
      size < (m.listingOf t).length ∧ j.Passed i t := by
    rcases h.begun with rfl | ⟨-, hmore, -⟩
    · exact .inl (Nat.zero_le _)
    · exact (h.reaches inst hi).imp_right fun hpassed => ⟨hmore, hpassed⟩
  rcases hreaches with hplace | hpassed
  · exact (InMemory.mem_page_or_behind ((InMemory.mem_drop_iff hi start).mpr hplace)).imp_right .inl
  · exact .inr (.inr hpassed)

theorem instances_listed (i : Nat) (project zone : String) (token : Option String) (j : Journal) :
    (j.record i (.list project zone token)).service.instances = j.service.instances :=
  (InMemory.list_unmade j.service project zone token).instances_eq

/-- **The next page** begins behind the one that was listed, and still in front of the machine if
that was not on it. -/
theorem next (h : OnWay size k m i t start j) (hsize : size < Nat.pow 2 64)
    (hroom : m.instances.size < Nat.pow 2 63)
    (hnot : ∀ inst, j.service.instances.get? t = some inst →
      inst ∉ (page size start (j.service.listingOf t)).items)
    (hlt : pageStop size start (j.service.listingOf t) <
      (j.service.listingOf t).length) (token : Option String) :
    OnWay size k m i t (pageStop size start (j.service.listingOf t))
      (j.record i (.list t.project t.zone token)) := by
  have hsame := instances_listed i t.project t.zone token j
  have hle := h.length_le t
  have hall := m.length_listingOf_le t
  have hstop := h.pageStop_eq hsize hroom (j.service.listingOf t)
  refine ⟨(h.record (r := .list t.project t.zone token) nofun i).toShrunk,
    .inr ⟨Journal.listed_record (r := .list t.project t.zone token) trivial i j, by omega,
      by omega⟩, fun inst hi => ?_⟩
  rw [hsame] at hi
  rcases h.ahead hi with hpage | hbehind | ⟨-, hpassed⟩
  · exact absurd hpage (hnot inst hi)
  · rw [InMemory.mem_drop_iff hi] at hbehind
    exact .inl ((InMemory.place_congr hsame t).symm ▸ hbehind)
  · exact .inr (hpassed.mono (List.sublist_append_left _ _))

/-- **Behind the last page**, a machine that was not on it is gone or was missed. -/
theorem last (h : OnWay size k m i t start j)
    (hnot : ∀ inst, j.service.instances.get? t = some inst →
      inst ∉ (page size start (j.service.listingOf t)).items)
    (hlast : ¬ pageStop size start (j.service.listingOf t) <
      (j.service.listingOf t).length) (token : Option String) :
    Unfound size m i t (j.record i (.list t.project t.zone token)) := by
  unfold Unfound
  rw [instances_listed]
  cases hi : j.service.instances.get? t with
  | none => exact .inl rfl
  | some inst =>
    rcases h.ahead hi with hpage | hbehind | ⟨hmore, hpassed⟩
    · exact absurd hpage (hnot inst hi)
    · rw [List.drop_eq_nil_of_le (Nat.not_lt.mp hlast)] at hbehind
      cases hbehind
    · exact .inr ⟨hmore, hpassed.overtaken trivial⟩

end OnWay

/-! ### Searches -/

/-- **What a search among others comes to**: whatever it finds, it finds none only of a machine that
is gone or was missed. -/
def Searched (P : Nat → Request → Prop) (size : Nat) (m : InMemory) (i : Nat) (t : MachineId)
    (j : Journal) (r : Except MachineError Discovered) (w' : World Journal) : Prop :=
  ∃ found, r = .ok found ∧ Around P i Request.Reads j w'.state ∧
    (found.isEmpty = true → Unfound size m i t w'.state)

variable {token : Option String} {tags : List String} {cluster role : String}

/-- **A page** of a service that nothing disturbs. -/
theorem exists_listed (t : MachineId) (hq : w.state.service.Quiet size k)
    (htoken : offset? token = some start) :
    ∃ w', (Journal.backend i none).handler none (.abortable (.list t.project t.zone token)) w =
        .answered (some (.ok (page size start (w.state.service.listingOf t)))) w' ∧
      w'.state = w.state.record i (.list t.project t.zone token) := by
  have hlist : (w.state.service.list t.project t.zone token).1 =
      .ok (page size start (w.state.service.listingOf t)) := by
    unfold InMemory.list
    dsimp only
    rw [← hq.pageSize_eq, hq.noFailures, htoken]
    rfl
  have hc : (Journal.backend i none).call (.list t.project t.zone token) w.state =
      (.after 0 (.ok (page size start (w.state.service.listingOf t))),
        w.state.record i (.list t.project t.zone token)) := by
    rw [← hlist]
    rfl
  exact (Journal.backend i none).handler_abortable_of_after rfl hc

/-- **A search for a machine** among others that insert nothing, from any page on. -/
theorem secure_walk (hP : ∀ i r, P i r → r.InsertsNothing)
    (hm : Markers.ofTags tags = ⟨some cluster, some role⟩) (hsize : size < Nat.pow 2 64)
    (hroom : m.instances.size < Nat.pow 2 63)
    (howns : ∀ inst, m.instances.get? t = some inst → Owns tags t.name inst) {n : Nat}
    (hw : OnWay size k m i t start w.state) (htoken : offset? token = some start)
    (hn : (w.state.service.listingOf t).length - start < n) :
    Secure P i (Searched P size m i t w.state)
      (Search.walk ⟨t.project, t.zone, cluster, role, some t.name⟩ n token .empty) (n + 1) w := by
  induction n generalizing start token w with
  | zero => exact absurd hn (Nat.not_lt_zero _)
  | succ n ih =>
    rw [Search.walk]
    intro j hj
    have hshrinks : Shrinks w.state j := hj.around.shrinks hP
    have hway := hw.recorded hshrinks
    obtain ⟨w₁, hpage, hsame⟩ := exists_listed (i := i) (w := w.within j) t hway.quiet htoken
    have haround : Around P i Request.Reads w.state w₁.state := by
      rw [hsame]
      exact hj.around.trans (Around.own (r := .list t.project t.zone token) rfl j)
    refine ⟨_, w₁, hpage, ?_⟩
    by_cases howned : ∃ inst ∈ (page size start (j.service.listingOf t)).items,
        Owns tags t.name inst
    · dsimp only [World.state_within]
      rw [scan_of_owned hm howned]
      exact fun j' hj' => ⟨_, rfl, haround.trans hj'.around, fun h => absurd h Bool.false_ne_true⟩
    · have hnot : ∀ inst, j.service.instances.get? t = some inst →
          inst ∉ (page size start (j.service.listingOf t)).items :=
        fun inst hi hin => howned ⟨inst, hin, howns inst (hway.get?_eq hi)⟩
      dsimp only [World.state_within]
      rw [scan_of_unowned hm fun inst hin ho => howned ⟨inst, hin, ho⟩, InMemory.next?_page]
      by_cases hlt : pageStop size start (j.service.listingOf t) <
          (j.service.listingOf t).length
      · rw [if_pos hlt]
        have hway₁ := hway.next hsize hroom hnot hlt token
        have hstop := hway.start_lt hsize hroom hlt
        have hbefore : Shrunk size k w.state.service w.state := ⟨hw.quiet, .refl _⟩
        have hle := (hbefore.recorded hshrinks).length_le t
        have hle₁ := (hbefore.recorded (haround.shrinks hP)).length_le t
        refine (ih (hsame ▸ hway₁) (hway.offset?_next hroom hlt) (by omega)).imp fun r w' => ?_
        rintro ⟨found, rfl, hafter, hempty⟩
        exact ⟨found, rfl, haround.trans hafter, hempty⟩
      · rw [if_neg hlt]
        have hend : Unfound size m i t w₁.state := hsame ▸ hway.last hnot hlt token
        intro j₁ hj₁
        refine ⟨false, _, rfl, fun j₂ hj₂ => ?_⟩
        have hafter : Meanwhile P i w₁.state j₂ := hj₁.trans hj₂
        exact ⟨.empty, rfl, haround.trans hafter.around,
          fun _ => hend.recorded (hafter.around.shrinks hP)⟩

/-- **A search for a machine** among others that insert nothing, if it may list more pages than
there were machines. -/
theorem secure_discover (hP : ∀ i r, P i r → r.InsertsNothing)
    (hc : (Markers.ofTags tags).complete? ≠ none) (hsize : size < Nat.pow 2 64)
    (hroom : m.instances.size < Nat.pow 2 63)
    (howns : ∀ inst, m.instances.get? t = some inst → Owns tags t.name inst) {n : Nat}
    (hw : Shrunk size k m w.state) (hn : m.instances.size < n) :
    Secure P i (Searched P size m i t w.state)
      (discover n t.project t.zone tags (some t.name)) (n + 1) w := by
  obtain ⟨⟨cluster, role⟩, hmarkers⟩ := Option.ne_none_iff_exists'.mp hc
  unfold discover
  rw [hmarkers]
  refine secure_walk hP (Markers.complete?_eq_some.mp hmarkers) hsize hroom howns
    (.first hw i t) rfl ?_
  have hle := hw.length_le t
  have hall := m.length_listingOf_le t
  omega

end GceMachines
