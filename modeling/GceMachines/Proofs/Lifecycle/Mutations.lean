import GceMachines.Proofs.Lifecycle.Entering
import GceMachines.Proofs.Lifecycle.Located

/-!
# Changes that are asked for

Of the lifecycle calls only two ask the service for a change, and each asks for one change at most,
whatever the service answers. So a change that was refused, failed, took too long or was cancelled
is not asked for again. A deletion is asked for only after a page of the search held the machine,
under its name and with the markers of the specification.

* `create_leads`, `delete_leads`: the one change of a run stands between questions without a
  change.
* `mutations_gated`: all changes of the five lifecycle calls.
-/

namespace GceMachines.Lifecycle

open Program (Leads)
open Request (Reads)

variable {σ : Type} {b : Backend σ} {cancelAt : Option Nat} {P : Request → Prop} {w w₁ w' : World σ}

/-! ### Runs with one change -/

/-- A run that asks for no change. -/
abbrev LeadsReading (b : Backend σ) (cancelAt : Option Nat) : World σ → World σ → Prop :=
  Leads (b.handler cancelAt) (Ask.Calls Reads)

/-- **A run with one change**: whatever is asked before it and after it, it is the only one, and it
stands behind the calls made before it. -/
theorem mutations_of_one {r : Request} (hr : r.isMutation = true)
    (hbefore : LeadsReading b cancelAt w w₁)
    (hafter : LeadsReading b cancelAt (b.handler cancelAt (.call r) w₁).state w') :
    w'.mutations = w.mutations ++ [(w₁.now, r)] ∧
      ∃ later, w'.calls = w₁.calls ++ (w₁.now, r) :: later := by
  have hc : (b.handler cancelAt (.call r) w₁).state.contacts = (w₁.now, .call r) :: w₁.contacts :=
    Backend.contacts_seeThrough _ _ w₁
  constructor
  · rw [hafter.mutations_eq, World.mutations_of_contacts_cons hc,
      hbefore.mutations_eq, if_pos hr]
  · obtain ⟨later, hl⟩ := hafter.calls_append
    refine ⟨later, ?_⟩
    rw [hl, World.calls_of_contacts_cons hc, List.append_assoc]
    rfl

/-! ### The two calls with a change -/

/-- **A creation** asks for no change, or for an insertion once it has entered its project. -/
theorem create_leads (b : Backend σ) (cancelAt : Option Nat) (limits : Limits) (name : String)
    (spec : ProviderSpec) (secret : Secret) (w : World σ) :
    LeadsReading b cancelAt w (b.run cancelAt (create limits name spec secret) w).state ∨
    ∃ project w₁, Entered b cancelAt secret w project w₁ ∧ LeadsReading b cancelAt w w₁ ∧
      LeadsReading b cancelAt
        (b.handler cancelAt
          (.call (.insert project spec.zone (instanceBody name project spec secret.userData)))
          w₁).state
        (b.run cancelAt (create limits name spec secret) w).state := by
  unfold Backend.run create
  rcases (Calls.enter secret).bindOk_cases _ w with ⟨project, w₁, hen, hl, hr⟩ | hl
  · refine .inr ⟨project, w₁, run_enter_eq_ok.mp hen, hl, .trans ?_ (leads_counted _ _ w)⟩
    rw [hr]
    refine Program.Asks.leads_of_ask (fun r => ?_) w₁
    match r with
    | .error e => trivial
    | .ok op => exact Calls.finish (P := Reads) rfl limits
  · exact .inl (hl.trans (leads_counted _ _ w))

/-- **A deletion** asks for no change, or for the deletion of the machine once it has found it. -/
theorem delete_leads (b : Backend σ) (cancelAt : Option Nat) (limits : Limits) (name : String)
    (spec : ProviderSpec) (secret : Secret) (w : World σ) :
    LeadsReading b cancelAt w (b.run cancelAt (delete limits name spec secret) w).state ∨
    ∃ project w₁ earlier last w₂, Entered b cancelAt secret w project w₁ ∧
      Located b cancelAt project spec.zone spec.tags name w₁ earlier last w₂ ∧
      LeadsReading b cancelAt w w₁ ∧ LeadsReading b cancelAt w₁ w₂ ∧
      LeadsReading b cancelAt
        (b.handler cancelAt (.call (.delete ⟨project, spec.zone, name⟩)) w₂).state
        (b.run cancelAt (delete limits name spec secret) w).state := by
  unfold Backend.run delete
  rcases (Calls.enter secret).bindOk_cases _ w with ⟨project, w₁, hen, hl, hr⟩ | hl
  · have hsearch : (discover limits.pages project spec.zone spec.tags (some name)).Calls Reads :=
      Calls.discover fun _ => rfl
    rcases hsearch.bindOk_cases _ w₁ with ⟨found, w₂, hd, hl', hr'⟩ | hl'
    · rcases located_or_missing hd with ⟨rfl, earlier, last, -, hloc⟩ | ⟨rfl, -⟩
      · refine .inr ⟨project, w₁, earlier, last, w₂, run_enter_eq_ok.mp hen, hloc, hl, hl',
          .trans ?_ (leads_counted _ _ w)⟩
        rw [hr, hr']
        refine Program.Asks.leads_of_ask (fun r => ?_) w₂
        match r with
        | .error e => dsimp only; split <;> trivial
        | .ok op => exact Calls.finish (P := Reads) rfl limits
      · refine .inl (.trans ?_ (leads_counted _ _ w))
        rw [hr, hr']
        exact hl.trans hl'
    · refine .inl (.trans ?_ (leads_counted _ _ w))
      rw [hr]
      exact hl.trans hl'
  · exact .inl (hl.trans (leads_counted _ _ w))

/-! ### The calls without a change -/

theorem status_reads (limits : Limits) (name : String) (spec : ProviderSpec) (secret : Secret) :
    (status limits name spec secret).Calls Reads :=
  Calls.status (fun _ _ => rfl) limits name secret

theorem list_reads (limits : Limits) (spec : ProviderSpec) (secret : Secret) :
    (list limits spec secret).Calls Reads :=
  Calls.list (fun _ _ => rfl) limits secret

theorem describe_reads (id : String) (secret : Secret) : (describe id secret).Calls Reads :=
  Calls.describe (fun _ => rfl) id secret

theorem delete_incomplete {spec : ProviderSpec} (h : (Markers.ofTags spec.tags).complete? = none)
    (limits : Limits) (name : String) (secret : Secret) :
    (delete limits name spec secret).Calls P := by
  unfold delete discover
  refine Calls.counted _ ((Calls.enter secret).bindOk fun project => ?_)
  rw [h]
  trivial

/-! ### All changes -/

/-- The world in which a run from the start of a backend ends. -/
def after {α : Type} (b : Backend σ) (cancelAt : Option Nat) (p : Plan α) (s : σ) : World σ :=
  (b.run cancelAt p (.start s)).state

theorem mutations_after_reading {α : Type} {p : Plan α} (hp : p.Calls Reads) (s : σ) :
    (after b cancelAt p s).mutations = [] :=
  (hp.leads (World.start s)).mutations_eq

/-- **The deletion of a run**, if there is one, stands right behind the walk that found the machine.
-/
theorem delete_mutations (b : Backend σ) (cancelAt : Option Nat) (limits : Limits) (name : String)
    (spec : ProviderSpec) (secret : Secret) (s : σ) :
    (after b cancelAt (delete limits name spec secret) s).mutations = [] ∨
    ∃ project w₁ earlier last w₂ later, Entered b cancelAt secret (.start s) project w₁ ∧
      Located b cancelAt project spec.zone spec.tags name w₁ earlier last w₂ ∧
      (after b cancelAt (delete limits name spec secret) s).mutations =
        [(w₂.now, .delete ⟨project, spec.zone, name⟩)] ∧
      (after b cancelAt (delete limits name spec secret) s).calls =
        w₂.calls ++ (w₂.now, .delete ⟨project, spec.zone, name⟩) :: later := by
  rcases delete_leads b cancelAt limits name spec secret (.start s) with
    hl | ⟨project, w₁, earlier, last, w₂, hen, hloc, hl, hl', hl''⟩
  · exact .inl (hl.mutations_eq)
  · obtain ⟨hm, later, hc⟩ := mutations_of_one rfl (hl.trans hl') hl''
    exact .inr ⟨project, w₁, earlier, last, w₂, later, hen, hloc, hm, hc⟩

/-- **The insertion of a run**, if there is one, is that of the machine. -/
theorem create_mutations (b : Backend σ) (cancelAt : Option Nat) (limits : Limits) (name : String)
    (spec : ProviderSpec) (secret : Secret) (s : σ) :
    (after b cancelAt (create limits name spec secret) s).mutations = [] ∨
    ∃ project w₁, Entered b cancelAt secret (.start s) project w₁ ∧
      (after b cancelAt (create limits name spec secret) s).mutations =
        [(w₁.now, .insert project spec.zone (instanceBody name project spec secret.userData))] := by
  rcases create_leads b cancelAt limits name spec secret (.start s) with
    hl | ⟨project, w₁, hen, hl, hl'⟩
  · exact .inl (hl.mutations_eq)
  · obtain ⟨hm, -⟩ := mutations_of_one rfl hl hl'
    exact .inr ⟨project, w₁, hen, hm⟩

/-- **Changes are gated and never repeated**, whatever the service answers and whenever the run is
cancelled. A deletion is asked for once at most, right behind the walk on which the search found
the machine, in the project and the zone of the search and under its name; without both markers in
the specification no call is made. A creation asks for one insertion at most and for no deletion.
The other lifecycle calls ask for no change. -/
theorem mutations_gated (b : Backend σ) (cancelAt : Option Nat) (limits : Limits) (name : String)
    (spec : ProviderSpec) (secret : Secret) (s : σ) :
    ((after b cancelAt (delete limits name spec secret) s).mutations.length ≤ 1 ∧
      (∀ e ∈ (after b cancelAt (delete limits name spec secret) s).mutations,
        ∃ project w₁ earlier last w₂ later,
          Entered b cancelAt secret (.start s) project w₁ ∧
          Located b cancelAt project spec.zone spec.tags name w₁ earlier last w₂ ∧
          e = (w₂.now, .delete ⟨project, spec.zone, name⟩) ∧
          (after b cancelAt (delete limits name spec secret) s).calls = w₂.calls ++ e :: later) ∧
      ((Markers.ofTags spec.tags).complete? = none →
        (after b cancelAt (delete limits name spec secret) s).calls = [])) ∧
    ((after b cancelAt (create limits name spec secret) s).mutations.length ≤ 1 ∧
      ∀ e ∈ (after b cancelAt (create limits name spec secret) s).mutations,
        ∃ project, secret.project = .ok project ∧
          e.2 = .insert project spec.zone (instanceBody name project spec secret.userData)) ∧
    (after b cancelAt (status limits name spec secret) s).mutations = [] ∧
    (after b cancelAt (list limits spec secret) s).mutations = [] ∧
    ∀ id, (after b cancelAt (describe id secret) s).mutations = [] := by
  refine ⟨⟨?_, ?_, ?_⟩, ⟨?_, ?_⟩, mutations_after_reading (status_reads limits name spec secret) s,
    mutations_after_reading (list_reads limits spec secret) s,
    fun id => mutations_after_reading (describe_reads id secret) s⟩
  · rcases delete_mutations b cancelAt limits name spec secret s with
      hm | ⟨project, w₁, earlier, last, w₂, later, -, -, hm, -⟩ <;> rw [hm]
    · exact Nat.zero_le 1
    · exact Nat.le_refl 1
  · intro e he
    rcases delete_mutations b cancelAt limits name spec secret s with
      hm | ⟨project, w₁, earlier, last, w₂, later, hen, hloc, hm, hc⟩ <;> rw [hm] at he
    · cases he
    · obtain rfl := List.mem_singleton.mp he
      exact ⟨project, w₁, earlier, last, w₂, later, hen, hloc, rfl, hc⟩
  · intro h
    have hp := delete_incomplete (P := fun _ => False) h limits name secret
    exact (hp.leads (World.start s)).calls_eq
  · rcases create_mutations b cancelAt limits name spec secret s with
      hm | ⟨project, w₁, -, hm⟩ <;> rw [hm]
    · exact Nat.zero_le 1
    · exact Nat.le_refl 1
  · intro e he
    rcases create_mutations b cancelAt limits name spec secret s with
      hm | ⟨project, w₁, hen, hm⟩ <;> rw [hm] at he
    · cases he
    · obtain rfl := List.mem_singleton.mp he
      exact ⟨project, hen.named, rfl⟩

end GceMachines.Lifecycle
