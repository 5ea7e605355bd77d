import GceMachines.Proofs.InMemory.Isolation
import GceMachines.Proofs.InMemory.Quiet
import GceMachines.Proofs.Lifecycle.Truncation

/-!
# Changes and cancellations

A deletion stands right behind the page that held its machine, and a page that is listed has come
before the cancellation. So no deletion is asked for once a run is cancelled, and one that is
cancelled from the beginning changes nothing. A creation is different: nothing in front of its
insertion asks whether the run is cancelled, so it inserts the machine whenever it has entered its
project, and a cancellation neither keeps it from that nor delays it.

* `Walked.inTime`: a walk that succeeds ends before the cancellation.
* `delete_reads_of_cancelled`: a deletion that is cancelled from the beginning asks for no change.
* `mem_create_mutations`: the insertion of a creation, whenever that is cancelled.
* `mutations_and_cancellation`: the changes of both, beside the instant of the cancellation.
-/

namespace GceMachines

namespace Lifecycle

variable {σ : Type} {b : Backend σ} {cancelAt : Option Nat} {limits : Limits}
  {project zone name : String} {spec : ProviderSpec} {secret : Secret} {w w₁ w' : World σ} {s : σ}
  {e : Nat × Request}

/-! ### Deletions -/

theorem Walked.inTime {token : Option String} {earlier : List InstanceList} {last : InstanceList}
    (h : Walked b cancelAt project zone token w earlier last w') : ∀ c ∈ cancelAt, w'.now < c := by
  induction h with
  | last hl => exact Backend.abortable_eq_some hl
  | more _ _ _ ih => exact ih

theorem delete_mutations_inTime
    (he : e ∈ (after b cancelAt (delete limits name spec secret) s).mutations) :
    ∀ c ∈ cancelAt, e.1 < c := by
  rcases delete_mutations b cancelAt limits name spec secret s with
    hm | ⟨project, w₁, earlier, last, w₂, later, -, hloc, hm, -⟩ <;> rw [hm] at he
  · cases he
  · obtain rfl := List.mem_singleton.mp he
    exact hloc.walked.inTime

theorem delete_reads_of_cancelled (b : Backend σ) (limits : Limits) (name : String)
    (spec : ProviderSpec) (secret : Secret) (s : σ) :
    LeadsReading b (some 0) (.start s) (after b (some 0) (delete limits name spec secret) s) := by
  rcases delete_leads b (some 0) limits name spec secret (.start s) with
    hl | ⟨project, w₁, earlier, last, w₂, -, hloc, -⟩
  · exact hl
  · exact absurd (hloc.walked.inTime 0 rfl) (Nat.not_lt_zero _)

/-! ### Creations -/

theorem Entered.congr (h : Entered b cancelAt secret w project w₁) (cancelAt' : Option Nat) :
    Entered b cancelAt' secret w project w₁ :=
  ⟨h.named, h.connected⟩

theorem create_leads_of_entered (h : Entered b cancelAt secret w project w₁) :
    LeadsReading b cancelAt
      (b.handler cancelAt (.call (insertion project name spec secret)) w₁).state
      (b.run cancelAt (create limits name spec secret) w).state := by
  refine .trans ?_ (leads_counted _ _ w)
  rw [Program.run_bindOk_of_ok _ (run_enter_eq_ok.mpr h)]
  refine Program.Asks.leads_of_ask (fun r => ?_) w₁
  match r with
  | .error e => trivial
  | .ok op => exact Calls.finish (P := Request.Reads) rfl limits

/-- **The insertion of a creation**, whenever that is cancelled: there is one exactly if the project
was entered, and it is asked for at that instant. -/
theorem mem_create_mutations :
    e ∈ (after b cancelAt (create limits name spec secret) s).mutations ↔
      ∃ project w₁, Entered b none secret (.start s) project w₁ ∧
        e = (w₁.now, insertion project name spec secret) := by
  constructor
  · intro he
    rcases create_mutations b cancelAt limits name spec secret s with
      hm | ⟨project, w₁, hen, hm⟩ <;> rw [hm] at he
    · cases he
    · exact ⟨project, w₁, hen.congr none, List.mem_singleton.mp he⟩
  · rintro ⟨project, w₁, hen, rfl⟩
    have hen' := hen.congr cancelAt
    have hm : (after b cancelAt (create limits name spec secret) s).mutations = _ :=
      (mutations_of_one rfl hen'.leads (create_leads_of_entered hen')).1
    rw [hm]
    exact List.mem_append_right _ (List.mem_singleton_self _)

variable {size k : Nat} {v : World InMemory}

theorem waitEnded_of_cancelled {c : Nat} (hc : c ≤ w.now) (o : Awaited) (cfg : PollConfig) :
    WaitEnded b (some c) o cfg w .cancelled w := by
  refine .cancelledAsleep ?_
  simp only [Backend.handler]
  rw [b.isCancelled_of_le c hc, if_pos rfl]

/-- **A creation that is cancelled from the beginning** inserts its machine all the same into a
service that nothing disturbs, and only then reports that it was cancelled. -/
theorem run_create_cancelled (limits : Limits) {c : Nat} (hc : c ≤ v.now)
    (hq : v.state.Quiet size k) (hp : secret.project = .ok project)
    (hfree : v.state.instances.get? ⟨project, spec.zone, name⟩ = none) :
    ∃ v', (InMemory.backend none).run (some c) (create limits name spec secret) v =
        .answered (.error (.cancelled (InMemory.operationName v.state.serial))) v' ∧
      v'.now = v.now ∧
      v'.state.instances = v.state.instances.insert ⟨project, spec.zone, name⟩
        (InMemory.created v.state.serial ⟨project, spec.zone, name⟩
          (instanceBody name project spec secret.userData)) := by
  obtain ⟨v₁, hen, hs₁, hnow₁⟩ := InMemory.exists_entered hp (some c) v
  rw [← hs₁] at hq hfree ⊢
  obtain ⟨op, v₂, hi, hnow₂, -, hacc⟩ :=
    InMemory.exists_inserted hq (instanceBody name project spec secret.userData) hfree
  have hdue : c ≤ v₂.now := by rw [hnow₂, hnow₁]; exact hc
  have hw : WaitEnded (InMemory.backend none) (some c) (awaited ⟨project, spec.zone, name⟩ op)
      limits.poll v₂ .cancelled v₂ := waitEnded_of_cancelled hdue _ _
  refine ⟨_, run_create_iff.mpr ⟨_, .waited hen hi hw ?_, rfl⟩, ?_, ?_⟩
  · rw [← hacc.named]
    rfl
  · exact hnow₂.trans hnow₁
  · change v₂.state.instances = _
    rw [hacc.instances, hq.nextOutcome]
    rfl

/-! ### Both -/

/-- **Changes beside a cancellation**, whatever the backend answers and however long it takes. A
deletion asks for its change before it is cancelled, or not at all; one that is cancelled from the
beginning leaves the service in memory as it was. A creation asks for its insertion at the instant
at which it has entered its project, whenever it is cancelled: that is before the cancellation
exactly if the project is entered before it. -/
theorem mutations_and_cancellation (b : Backend σ) (c : Nat) (limits : Limits) (name : String)
    (spec : ProviderSpec) (secret : Secret) (s : σ) :
    (∀ e ∈ (after b (some c) (delete limits name spec secret) s).mutations, e.1 < c) ∧
    (∀ refusal m,
      (after (InMemory.backend refusal) (some 0) (delete limits name spec secret)
        m).state.instances = m.instances) ∧
    (∀ e, e ∈ (after b (some c) (create limits name spec secret) s).mutations ↔
      ∃ project w₁, Entered b none secret (.start s) project w₁ ∧
        e = (w₁.now, insertion project name spec secret)) ∧
    ((∀ e ∈ (after b (some c) (create limits name spec secret) s).mutations, e.1 < c) ↔
      ∀ project w₁, Entered b none secret (.start s) project w₁ → w₁.now < c) := by
  refine ⟨fun e he => delete_mutations_inTime he c rfl, fun refusal m => ?_,
    fun e => mem_create_mutations, ?_, ?_⟩
  · exact InMemory.instances_of_leads (delete_reads_of_cancelled _ limits name spec secret m)
  · intro h project w₁ hen
    exact h _ (mem_create_mutations.mpr ⟨project, w₁, hen, rfl⟩)
  · intro h e he
    obtain ⟨project, w₁, hen, rfl⟩ := mem_create_mutations.mp he
    exact h project w₁ hen

open InMemory (keyring nodeSpec) in
/-- A creation that is cancelled before it begins asks for its insertion, and its machine is stored.
-/
theorem cancelled_creation_inserts :
    ∃ w', (InMemory.backend none).run (some 0) (create ⟨.standard, 4⟩ "a" (nodeSpec "a") keyring)
        (.start (InMemory.new 1 0)) =
          .answered (.error (.cancelled (InMemory.operationName 0))) w' ∧
      (0, insertion "p" "a" (nodeSpec "a") keyring) ∈ w'.mutations ∧
      w'.state.instances.contains ⟨"p", "z", "a"⟩ = true := by
  have hp : Secret.project keyring = .ok "p" := InMemory.project_keyring
  have hq : (InMemory.new 1 0).Quiet 1 0 := ⟨rfl, rfl, rfl, rfl⟩
  have hfree : (InMemory.new 1 0).instances.get? ⟨"p", (nodeSpec "a").zone, "a"⟩ = none := rfl
  obtain ⟨w', hrun, -, hstored⟩ := run_create_cancelled (v := .start (InMemory.new 1 0)) (c := 0)
    ⟨.standard, 4⟩ (Nat.zero_le _) hq hp hfree
  refine ⟨w', hrun, ?_, ?_⟩
  · have hafter : after (InMemory.backend none) (some 0)
        (create ⟨.standard, 4⟩ "a" (nodeSpec "a") keyring) (InMemory.new 1 0) = w' :=
      congrArg Program.Outcome.state hrun
    rw [← hafter, mem_create_mutations]
    obtain ⟨w₁, hen, -, hnow⟩ := InMemory.exists_entered hp none (.start (InMemory.new 1 0))
    exact ⟨"p", w₁, hen, by rw [hnow]; rfl⟩
  · rw [hstored]
    rfl

end Lifecycle

end GceMachines
