import GceMachines.Proofs.InMemory.Isolation
import GceMachines.Proofs.InMemory.Quiet
import GceMachines.Proofs.Lifecycle.Catalogue

/-!
# The life of a machine

On a service that nothing disturbs, a machine is created under a free name, and is there even if the
wait for it takes too long. It is then found under its name, and listed, exactly if its
specification has both markers; without them it is an orphan, which no search under the
specification finds. A machine that is found can be deleted, after which the store is as it was
before, and the machine is not found again.

* `Holds`: the store has the machine of a name with the markers of a specification.
* `Searchable`: nothing disturbs a search; `searchable_of_reading`: nor a later one.
* `run_status_quiet`, `run_list_quiet`: what is found.
* `run_create_quiet`, `run_delete_quiet`: the two changes.
* `lifecycle_coherent`: all of them, one after another.
-/

namespace GceMachines.InMemory

open Lifecycle

variable {size k pages : Nat} {m m' : InMemory} {project zone name : String} {spec : ProviderSpec}
  {secret : Secret} {limits : Limits} {w w₁ w' : World InMemory}

/-! ### What the store holds -/

/-- **The store has the machine of a name**, with the markers of a specification. -/
def Holds (m : InMemory) (project : String) (spec : ProviderSpec) (name : String) : Prop :=
  ∃ i, m.instances.get? ⟨project, spec.zone, name⟩ = some i ∧
    Markers.ofTags i.tagItems = Markers.ofTags spec.tags

theorem holds_iff :
    m.Holds project spec name ↔ ∃ i ∈ m.instancesIn project spec.zone, Owns spec.tags name i := by
  unfold Holds instancesIn
  constructor
  · rintro ⟨i, hi, hmark⟩
    have hmem := SortedMap.get?_eq_some_iff.mp hi
    exact ⟨i, List.mem_map.mpr ⟨_, List.mem_filter.mpr ⟨hmem, by simp⟩, rfl⟩,
      (m.named _ hmem).symm, hmark⟩
  · rintro ⟨i, hi, ho⟩
    obtain ⟨⟨⟨p, z, n⟩, j⟩, hj, rfl⟩ := List.mem_map.mp hi
    obtain ⟨hmem, hkey⟩ := List.mem_filter.mp hj
    simp only [Bool.and_eq_true, decide_eq_true_eq] at hkey
    obtain ⟨rfl, rfl⟩ := hkey
    have hn : n = name := (m.named _ hmem).trans ho.named
    subst hn
    exact ⟨j, SortedMap.get?_eq_some_iff.mpr hmem, ho.marked⟩

theorem holds_congr (h : m'.instances = m.instances) :
    m'.Holds project spec name ↔ m.Holds project spec name := by
  unfold Holds
  rw [h]

theorem holds_of_created
    (h : m'.instances = m.instances.insert ⟨project, spec.zone, name⟩
      (created m.serial ⟨project, spec.zone, name⟩
        (instanceBody name project spec secret.userData))) : m'.Holds project spec name :=
  ⟨_, h ▸ SortedMap.get?_insert_self, rfl⟩

theorem not_holds_of_erased (h : m'.instances = m.instances.erase ⟨project, spec.zone, name⟩) :
    ¬ m'.Holds project spec name := by
  rintro ⟨i, hi, -⟩
  rw [h, SortedMap.get?_erase_self] at hi
  cases hi

/-! ### Searches -/

/-- **A service that nothing disturbs and that can be searched**: its sizes are numbers that a
service has, and a search reads more pages than there are machines. -/
structure Searchable (size looks pages : Nat) (m : InMemory) : Prop extends
    Quiet size looks m where
  size_lt : size < Nat.pow 2 64
  room : m.instances.size < Nat.pow 2 63
  pages_gt : m.instances.size < pages

theorem Searchable.calm (h : m.Searchable size k pages) : m.Calm :=
  ⟨by rw [h.noFailures], by rw [h.pageSize_eq]; exact h.size_lt, h.room⟩

theorem Searchable.of_size_le (h : m.Searchable size k pages) (hq : m'.Quiet size k)
    (hle : m'.instances.size ≤ m.instances.size) : m'.Searchable size k pages :=
  ⟨hq, h.size_lt, Nat.lt_of_le_of_lt hle h.room, Nat.lt_of_le_of_lt hle h.pages_gt⟩

theorem searchable_of_reading {α : Type} {p : Plan α} {a : α} (hreads : p.Calls Request.Reads)
    (h : w.state.Searchable size k pages) (hrun : (backend none).run none p w = .answered a w') :
    w'.state.instances = w.state.instances ∧ w'.state.Searchable size k pages := by
  have hsame := instances_of_run hreads hrun
  exact ⟨hsame, h.of_size_le (quiet_of_run h.toQuiet hrun) (Nat.le_of_eq (by rw [hsame]))⟩

theorem exists_walk (h : w.state.Searchable size k pages) (project zone : String) :
    ∃ earlier last w', Walked (backend none) none project zone none w earlier last w' ∧
      Exhausted (backend none) none last w' ∧ earlier.length < pages ∧
      ∀ i, i ∈ itemsOf earlier ++ last.items ↔ i ∈ w.state.instancesIn project zone := by
  obtain ⟨earlier, last, w', hw, hend, hlen⟩ := exists_walked_to_end none h.calm project zone
  exact ⟨earlier, last, w', hw, ⟨hend, rfl⟩, Nat.lt_of_le_of_lt hlen h.pages_gt,
    fun i => mem_walked_iff hw hend⟩

/-- **A machine that the store holds** is found, and at once. -/
theorem exists_located (hc : (Markers.ofTags spec.tags).complete? ≠ none)
    (h : w.state.Searchable size k pages) (hholds : w.state.Holds project spec name) :
    ∃ earlier last w', earlier.length < pages ∧ w'.now = w.now ∧
      Located (backend none) none project spec.zone spec.tags name w earlier last w' := by
  obtain ⟨earlier, last, w', hw, -, hlen, hmem⟩ := exists_walk h project spec.zone
  obtain ⟨i, hi, ho⟩ := holds_iff.mp hholds
  obtain ⟨before, page, w₁, hle, hw₁, hbefore, hfound⟩ := hw.until ⟨i, (hmem i).mpr hi, ho⟩
  exact ⟨before, page, w₁, by omega, now_of_walked hw₁, hc, hw₁, hbefore, hfound⟩

/-- **A machine that the store does not hold** is not found, and neither is one of a specification
without both markers. -/
theorem exists_unfound (h : w.state.Searchable size k pages)
    (hnot : (Markers.ofTags spec.tags).complete? = none ∨ ¬ w.state.Holds project spec name) :
    ∃ w', (discover pages project spec.zone spec.tags (some name)).run
      ((backend none).handler none) w = .answered (.ok .empty) w' := by
  by_cases hc : (Markers.ofTags spec.tags).complete? = none
  · exact ⟨w, run_discover_of_incomplete hc _ w⟩
  · obtain ⟨earlier, last, w', hw, hend, hlen, hmem⟩ := exists_walk h project spec.zone
    have hnowhere : ∀ i ∈ itemsOf earlier ++ last.items, ¬ Owns spec.tags name i :=
      fun i hi ho => hnot.resolve_left hc (holds_iff.mpr ⟨i, (hmem i).mp hi, ho⟩)
    exact ⟨w', hw.run_discover_of_nowhere hc hend hnowhere hlen⟩

/-! ### Finding and listing -/

theorem run_status_quiet (hp : secret.project = .ok project)
    (hc : (Markers.ofTags spec.tags).complete? ≠ none)
    (h : w.state.Searchable size k limits.pages) (hholds : w.state.Holds project spec name) :
    ∃ w', (backend none).run none (status limits name spec secret) w =
      .answered (.ok (MachineId.text ⟨project, spec.zone, name⟩)) w' := by
  obtain ⟨w₁, hen, hs, -⟩ := exists_entered hp none w
  rw [← hs] at h hholds
  obtain ⟨earlier, last, w₂, hlen, -, hloc⟩ := exists_located hc h hholds
  exact (run_status_of_found hen (hloc.run_discover hlen)).mpr rfl

theorem run_status_unfound (name : String) (hp : secret.project = .ok project)
    (h : w.state.Searchable size k limits.pages)
    (hnot : (Markers.ofTags spec.tags).complete? = none ∨ ¬ w.state.Holds project spec name) :
    ∃ w', (backend none).run none (status limits name spec secret) w =
      .answered (.error (.notFound name)) w' := by
  obtain ⟨w₁, hen, hs, -⟩ := exists_entered hp none w
  rw [← hs] at h hnot
  obtain ⟨w₂, hd⟩ := exists_unfound h hnot
  exact run_status_of_unfound hen hd

theorem run_list_quiet (hp : secret.project = .ok project)
    (hc : (Markers.ofTags spec.tags).complete? ≠ none)
    (h : w.state.Searchable size k limits.pages) (hholds : w.state.Holds project spec name) :
    ∃ found w', (backend none).run none (Lifecycle.list limits spec secret) w =
        .answered (.ok found) w' ∧
      (MachineId.text ⟨project, spec.zone, name⟩, name) ∈ found.entries := by
  obtain ⟨w₁, hen, hs, -⟩ := exists_entered hp none w
  rw [← hs] at h hholds
  obtain ⟨earlier, last, w₂, hw, hend, hlen, hmem⟩ := exists_walk h project spec.zone
  obtain ⟨w', hl⟩ := run_list_of_entered hen
    (run_discover_all hc hw hend hlen)
  obtain ⟨i, hi, ho⟩ := holds_iff.mp hholds
  exact ⟨_, w', hl, (mem_catalogue_iff hc).mpr ⟨rfl, i, (hmem i).mpr hi, ho⟩⟩

/-- **Listing machines** of a specification without both markers. -/
theorem run_list_incomplete (hp : secret.project = .ok project)
    (hc : (Markers.ofTags spec.tags).complete? = none) (w : World InMemory) :
    ∃ w', (backend none).run none (Lifecycle.list limits spec secret) w =
      .answered (.ok .empty) w' := by
  obtain ⟨w₁, hen, -, -⟩ := exists_entered hp none w
  exact run_list_of_entered hen (run_discover_of_incomplete hc none w₁)

/-! ### Creating and deleting -/

theorem run_create_quiet (hq : w.state.Quiet size k) (hp : secret.project = .ok project)
    (hfree : w.state.instances.get? ⟨project, spec.zone, name⟩ = none) :
    ∃ w', (backend none).run none (create limits name spec secret) w =
        .answered (changeResult limits.poll k (MachineId.text ⟨project, spec.zone, name⟩)
          (operationName w.state.serial)) w' ∧
      w'.now = w.now + changeTime limits.poll k ∧
      w'.state.instances = w.state.instances.insert ⟨project, spec.zone, name⟩
        (created w.state.serial ⟨project, spec.zone, name⟩
          (instanceBody name project spec secret.userData)) := by
  obtain ⟨w₁, hen, hs₁, hnow₁⟩ := exists_entered hp none w
  rw [← hs₁] at hq hfree ⊢
  obtain ⟨op, w₂, hi, hnow₂, hq₂, hacc⟩ :=
    exists_inserted hq (instanceBody name project spec secret.userData) hfree
  obtain ⟨how, w₃, hw, hr, hnow₃, hinstances⟩ :=
    hacc.exists_settled hq hq₂ limits.poll ⟨project, spec.zone, name⟩
  refine ⟨_, run_create_iff.mpr ⟨_, .waited hen hi hw hr.symm, rfl⟩, ?_, hinstances⟩
  change w₃.now = _
  rw [hnow₃, hnow₂, hnow₁]

theorem run_delete_quiet (hp : secret.project = .ok project)
    (hc : (Markers.ofTags spec.tags).complete? ≠ none)
    (h : w.state.Searchable size k limits.pages) (hholds : w.state.Holds project spec name) :
    ∃ w', (backend none).run none (Lifecycle.delete limits name spec secret) w =
        .answered (changeResult limits.poll k (MachineId.text ⟨project, spec.zone, name⟩)
          (operationName w.state.serial)) w' ∧
      w'.now = w.now + changeTime limits.poll k ∧
      w'.state.instances = w.state.instances.erase ⟨project, spec.zone, name⟩ := by
  obtain ⟨w₁, hen, hs₁, hnow₁⟩ := exists_entered hp none w
  obtain ⟨earlier, last, w₂, hlen, hnow₂, hloc⟩ :=
    exists_located hc (hs₁.symm ▸ h) (hs₁.symm ▸ hholds)
  have hsame : Surveyed w.state w₂.state := surveyed_of_located hen hloc
  have hq₂ : w₂.state.Quiet size k :=
    quiet_of_leads h.toQuiet (hen.leads.trans (hloc.walked.leads fun _ => trivial))
  have hthere : w₂.state.instances.contains ⟨project, spec.zone, name⟩ = true := by
    obtain ⟨i, hi, -⟩ := hholds
    rw [hsame.instances, SortedMap.contains, hi]
    rfl
  obtain ⟨op, w₃, hd, hnow₃, hq₃, hacc⟩ := exists_deleted hq₂ hthere
  obtain ⟨how, w₄, hw, hr, hnow₄, hinstances⟩ :=
    hacc.exists_settled hq₂ hq₃ limits.poll ⟨project, spec.zone, name⟩
  rw [← hsame.instances, ← hsame.serial]
  refine ⟨_, run_delete_iff.mpr ⟨_, .waited hen hloc hlen hd hw hr.symm, rfl⟩, ?_, hinstances⟩
  change w₄.now = _
  rw [hnow₄, hnow₃, hnow₂, hnow₁]

theorem run_delete_unfound (hp : secret.project = .ok project)
    (h : w.state.Searchable size k limits.pages)
    (hnot : (Markers.ofTags spec.tags).complete? = none ∨ ¬ w.state.Holds project spec name) :
    ∃ w', (backend none).run none (Lifecycle.delete limits name spec secret) w =
      .answered (.error (.notFound name)) w' := by
  obtain ⟨w₁, hen, hs, -⟩ := exists_entered hp none w
  rw [← hs] at h hnot
  obtain ⟨w₂, hd⟩ := exists_unfound h hnot
  exact ⟨_, run_delete_iff.mpr ⟨w₂, .missing hen hd, rfl⟩⟩

/-! ### One after another -/

/-- **A machine that the store holds** is found and listed; after a deletion it is not found,
neither for its id nor for a second deletion. -/
theorem run_of_holds (hp : secret.project = .ok project)
    (hc : (Markers.ofTags spec.tags).complete? ≠ none)
    (h : w.state.Searchable size k limits.pages) (hholds : w.state.Holds project spec name) :
    ∃ w₂ found w₃ w₄ w₅ w₆,
      (backend none).run none (status limits name spec secret) w =
        .answered (.ok (MachineId.text ⟨project, spec.zone, name⟩)) w₂ ∧
      (backend none).run none (Lifecycle.list limits spec secret) w₂ = .answered (.ok found) w₃ ∧
      (MachineId.text ⟨project, spec.zone, name⟩, name) ∈ found.entries ∧
      (backend none).run none (Lifecycle.delete limits name spec secret) w₃ =
        .answered (changeResult limits.poll k (MachineId.text ⟨project, spec.zone, name⟩)
          (operationName w₃.state.serial)) w₄ ∧
      w₄.now = w₃.now + changeTime limits.poll k ∧
      w₄.state.instances = w.state.instances.erase ⟨project, spec.zone, name⟩ ∧
      (backend none).run none (status limits name spec secret) w₄ =
        .answered (.error (.notFound name)) w₅ ∧
      (backend none).run none (Lifecycle.delete limits name spec secret) w₅ =
        .answered (.error (.notFound name)) w₆ := by
  obtain ⟨w₂, hstatus⟩ := run_status_quiet hp hc h hholds
  obtain ⟨hsame₂, h₂⟩ := searchable_of_reading (status_reads limits name spec secret) h hstatus
  obtain ⟨found, w₃, hlist, hlisted⟩ := run_list_quiet hp hc h₂ ((holds_congr hsame₂).mpr hholds)
  obtain ⟨hsame₃, h₃⟩ := searchable_of_reading (list_reads limits spec secret) h₂ hlist
  have hsame : w₃.state.instances = w.state.instances := hsame₃.trans hsame₂
  obtain ⟨w₄, hdelete, hnow₄, herased⟩ := run_delete_quiet hp hc h₃ ((holds_congr hsame).mpr hholds)
  have h₄ : w₄.state.Searchable size k limits.pages :=
    h₃.of_size_le (quiet_of_run h₃.toQuiet hdelete) (herased ▸ SortedMap.size_erase_le _ _)
  have hgone : ¬ w₄.state.Holds project spec name := not_holds_of_erased herased
  obtain ⟨w₅, hstatus'⟩ := run_status_unfound name hp h₄ (.inr hgone)
  obtain ⟨hsame₅, h₅⟩ := searchable_of_reading (status_reads limits name spec secret) h₄ hstatus'
  obtain ⟨w₆, hdelete'⟩ := run_delete_unfound hp h₅ (.inr (mt (holds_congr hsame₅).mp hgone))
  exact ⟨w₂, found, w₃, w₄, w₅, w₆, hstatus, hlist, hlisted, hdelete, hnow₄, hsame ▸ herased,
    hstatus', hdelete'⟩

/-- **The life of a machine**, on a service that nothing disturbs. A creation under a free name ends
with the id after as many intervals as its operation has looks, one at least, if that is less than
the timeout, and with a timeout otherwise; either way the machine is stored. Without both markers in
the specification it is neither found under its name nor listed. With both markers, its id is read
and it is listed under it; a deletion ends like the creation and leaves the store as it was before,
and then the machine is not found, neither for its id nor for a second deletion.

The page size and the number of machines are bounded as those of any store in memory are, and a
search reads more pages than there are machines. -/
theorem lifecycle_coherent (hq : w.state.Quiet size k) (hsize : size < Nat.pow 2 64)
    (hroom : w.state.instances.size + 1 < Nat.pow 2 63)
    (hpages : w.state.instances.size + 1 < limits.pages) (hp : secret.project = .ok project)
    (hfree : w.state.instances.get? ⟨project, spec.zone, name⟩ = none) :
    ∃ w₁,
      (backend none).run none (create limits name spec secret) w =
        .answered (changeResult limits.poll k (MachineId.text ⟨project, spec.zone, name⟩)
          (operationName w.state.serial)) w₁ ∧
      w₁.now = w.now + changeTime limits.poll k ∧
      w₁.state.instances = w.state.instances.insert ⟨project, spec.zone, name⟩
        (created w.state.serial ⟨project, spec.zone, name⟩
          (instanceBody name project spec secret.userData)) ∧
      ((Markers.ofTags spec.tags).complete? = none →
        ∃ w₂ w₃,
          (backend none).run none (status limits name spec secret) w₁ =
            .answered (.error (.notFound name)) w₂ ∧
          (backend none).run none (Lifecycle.list limits spec secret) w₂ =
            .answered (.ok .empty) w₃) ∧
      ((Markers.ofTags spec.tags).complete? ≠ none →
        ∃ w₂ found w₃ w₄ w₅ w₆,
          (backend none).run none (status limits name spec secret) w₁ =
            .answered (.ok (MachineId.text ⟨project, spec.zone, name⟩)) w₂ ∧
          (backend none).run none (Lifecycle.list limits spec secret) w₂ =
            .answered (.ok found) w₃ ∧
          (MachineId.text ⟨project, spec.zone, name⟩, name) ∈ found.entries ∧
          (backend none).run none (Lifecycle.delete limits name spec secret) w₃ =
            .answered (changeResult limits.poll k (MachineId.text ⟨project, spec.zone, name⟩)
              (operationName w₃.state.serial)) w₄ ∧
          w₄.now = w₃.now + changeTime limits.poll k ∧
          w₄.state.instances = w.state.instances ∧
          (backend none).run none (status limits name spec secret) w₄ =
            .answered (.error (.notFound name)) w₅ ∧
          (backend none).run none (Lifecycle.delete limits name spec secret) w₅ =
            .answered (.error (.notFound name)) w₆) := by
  obtain ⟨w₁, hcreate, hnow₁, hstored⟩ := run_create_quiet hq hp hfree
  have hgrown : w₁.state.instances.size ≤ w.state.instances.size + 1 :=
    hstored ▸ SortedMap.size_insert_le _ _ _
  have h₁ : w₁.state.Searchable size k limits.pages :=
    ⟨quiet_of_run hq hcreate, hsize, by omega, by omega⟩
  refine ⟨w₁, hcreate, hnow₁, hstored, fun hc => ?_, fun hc => ?_⟩
  · obtain ⟨w₂, hstatus⟩ := run_status_unfound name hp h₁ (.inl hc)
    obtain ⟨w₃, hlist⟩ := run_list_incomplete hp hc w₂
    exact ⟨w₂, w₃, hstatus, hlist⟩
  · have hback : w₁.state.instances.erase ⟨project, spec.zone, name⟩ = w.state.instances := by
      rw [hstored, SortedMap.erase_insert hfree]
    have hlife := run_of_holds (k := k) hp hc h₁ (holds_of_created hstored)
    rw [hback] at hlife
    exact hlife

/-- A third machine beside those of two clusters, on pages of one machine each. -/
theorem thirdMachine_coherent :
    twoClusters.Quiet 1 0 ∧ Secret.project keyring = .ok "p" ∧
      twoClusters.instances.get? ⟨"p", "z", "c"⟩ = none ∧
      ∃ w₁ w₂ found w₃ w₄,
        (backend none).run none (create ⟨.standard, 4⟩ "c" (nodeSpec "a") keyring)
          (.start twoClusters) = .answered (.ok "gce:///p/z/c") w₁ ∧
        w₁.now = 5000 ∧ w₁.state.instances.size = 3 ∧
        (backend none).run none (Lifecycle.list ⟨.standard, 4⟩ (nodeSpec "a") keyring) w₂ =
          .answered (.ok found) w₃ ∧
        ("gce:///p/z/c", "c") ∈ found.entries ∧
        (backend none).run none (Lifecycle.delete ⟨.standard, 4⟩ "c" (nodeSpec "a") keyring) w₃ =
          .answered (.ok "gce:///p/z/c") w₄ ∧
        w₄.state.instances = twoClusters.instances := by
  have hq : twoClusters.Quiet 1 0 := ⟨rfl, rfl, rfl, rfl⟩
  have hp : Secret.project keyring = .ok "p" := project_keyring
  have hfree : twoClusters.instances.get? ⟨"p", "z", "c"⟩ = none := by decide
  obtain ⟨w₁, hcreate, hnow, hstored, -, hlife⟩ :=
    lifecycle_coherent (w := .start twoClusters) hq (by decide) (by decide)
      (show _ + 1 < (⟨.standard, 4⟩ : Limits).pages by decide) hp
      (show twoClusters.instances.get? ⟨"p", (nodeSpec "a").zone, "c"⟩ = none from hfree)
  obtain ⟨w₂, found, w₃, w₄, _, _, -, hlist, hlisted, hdelete, -, hback, -⟩ := hlife (by decide)
  exact ⟨hq, hp, hfree, w₁, w₂, found, w₃, w₄, hcreate, hnow, by rw [hstored]; decide, hlist,
    hlisted, hdelete, hback⟩

end GceMachines.InMemory
