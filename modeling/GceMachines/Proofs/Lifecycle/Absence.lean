import GceMachines.Proofs.Lifecycle.Entering
import GceMachines.Proofs.Lifecycle.Failures
import GceMachines.Proofs.Lifecycle.Located

/-!
# Reports of absence

A lifecycle call may say that a machine is not there. Whoever hears this makes the machine anew, so
it must be said on no other ground than that the machine was looked for and is missing. No failure
of the service, of an operation, of a secret or of a wait is ever turned into such a report,
whatever status it carries.

* `Grounded`: a failure that does not speak of absence.
* `reportsAbsence_seeking`: a call that reports absence of what its search does not find.
* `notFound_iff_absent`: which reports there are, and when.
-/

namespace GceMachines

/-! ### Failures that do not speak of absence -/

/-- A failure that does not say that a machine is absent. -/
def MachineError.Grounded (e : MachineError) : Prop := e.isNotFound = false

theorem MachineError.not_grounded_notFound (name : String) : ¬ (notFound name).Grounded := by
  simp [Grounded, isNotFound]

theorem ServiceError.toMachineError_grounded (e : ServiceError) : e.toMachineError.Grounded := by
  cases e <;> rfl

theorem ServiceError.isNotFound_iff {e : ServiceError} :
    e.isNotFound = true ↔ ∃ text, e = .api 404 text := by
  cases e <;> simp [isNotFound]

namespace Lifecycle

open Program (Fails)

/-! ### Plans that do not speak of absence -/

/-- No failure of a plan says that a machine is absent. -/
abbrev Grounded {α : Type} (p : Plan (Except MachineError α)) : Prop := p.Fails MachineError.Grounded

theorem changing_grounded : Changing MachineError.Grounded where
  service := ServiceError.toMachineError_grounded
  credentials _ := rfl
  cancelled _ := rfl
  exhausted _ := rfl
  remote _ := rfl
  timeout _ _ := rfl

theorem connect_grounded (secret : Secret) : Grounded (connect secret) :=
  connect_fails changing_grounded.toPlain secret

theorem enter_grounded (secret : Secret) : Grounded (enter secret) :=
  enter_fails changing_grounded.toPlain secret

theorem discover_grounded (n : Nat) (project zone : String) (tags : List String)
    (name : Option String) : Grounded (discover n project zone tags name) :=
  discover_fails changing_grounded.toPlain n project zone tags name

/-! ### Calls on a machine that is looked for -/

variable {σ α : Type} {b : Backend σ} {cancelAt : Option Nat} {secret : Secret}
  {spec : ProviderSpec} {name project : String} {w w₁ w₂ w' : World σ} {call : LifecycleCall}

/-- **Absence was established**: the project was entered, and the machine is missing from it. -/
def Absent (b : Backend σ) (cancelAt : Option Nat) (secret : Secret) (spec : ProviderSpec)
    (name : String) (w : World σ) : Prop :=
  ∃ project w₁ w₂, Entered b cancelAt secret w project w₁ ∧
    Missing b cancelAt project spec.zone spec.tags name w₁ w₂

variable {pages : Nat}

theorem of_run_seeking {next : String → Discovered → Plan (Except MachineError α)}
    {e : MachineError} (he : ¬ e.Grounded)
    (h : (seeking call pages name spec secret next).run (b.handler cancelAt) w =
      .answered (.error e) w') :
    ∃ project w₂ w₃ found,
      (next project found).run (b.handler cancelAt) w₂ = .answered (.error e) w₃ ∧
      (found = single project spec.zone name ∨
        found = .empty ∧ Absent b cancelAt secret spec name w) := by
  obtain ⟨w₃, h⟩ := of_run_counted h
  rcases Program.run_bindOk_eq_error.mp h with h | ⟨project, w₁, hen, h⟩
  · exact absurd ((enter_grounded secret).of_run h) he
  · rcases Program.run_bindOk_eq_error.mp h with h | ⟨found, w₂, hd, h⟩
    · exact absurd ((discover_grounded _ _ _ _ _).of_run h) he
    · refine ⟨project, w₂, w₃, found, h, ?_⟩
      rcases located_or_missing hd with ⟨hf, -⟩ | ⟨hf, hm⟩
      · exact .inl hf
      · exact .inr ⟨hf, project, w₁, w₂, run_enter_eq_ok.mp hen, hm⟩

theorem run_seeking {next : String → Discovered → Plan (Except MachineError α)}
    {found : Discovered} {r : Except MachineError α}
    (hen : Entered b cancelAt secret w project w₁)
    (hd : (discover pages project spec.zone spec.tags (some name)).run (b.handler cancelAt) w₁ =
      .answered (.ok found) w₂)
    (hn : (next project found).run (b.handler cancelAt) w₂ = .answered r w') :
    ∃ w'', (seeking call pages name spec secret next).run (b.handler cancelAt) w =
      .answered r w'' := by
  rw [run_seeking_of_found hen hd]
  exact run_counted_of_answered hn

/-! ### Reports of absence -/

/-- **A call reports the absence of a machine exactly when it is established**: of no other
machine and on no other ground, and whenever it may walk over enough pages. -/
structure ReportsAbsence (b : Backend σ) (cancelAt : Option Nat)
    (call : Nat → Plan (Except MachineError α)) (name : String) (w : World σ) (absent : Prop) :
    Prop where
  onlyIf : ∀ pages m w',
    b.run cancelAt (call pages) w = .answered (.error (.notFound m)) w' → m = name ∧ absent
  whenever : absent → ∃ n, ∀ pages, n ≤ pages →
    ∃ w', b.run cancelAt (call pages) w = .answered (.error (.notFound name)) w'

/-- A call that reports absence of what its search does not find, and not of what it finds. -/
theorem reportsAbsence_seeking {next : Nat → String → Discovered → Plan (Except MachineError α)}
    (hempty : ∀ pages project, next pages project .empty = Plan.fail (.notFound name))
    (hsingle : ∀ pages project, Grounded (next pages project (single project spec.zone name))) :
    ReportsAbsence b cancelAt (fun pages => seeking call pages name spec secret (next pages)) name w
      (Absent b cancelAt secret spec name w) where
  onlyIf := by
    intro pages m w' h
    obtain ⟨project, w₂, w₃, found, h, rfl | ⟨rfl, habsent⟩⟩ :=
      of_run_seeking (MachineError.not_grounded_notFound m) h
    · exact absurd ((hsingle pages project).of_run h) (MachineError.not_grounded_notFound m)
    · rw [hempty] at h
      cases h
      exact ⟨rfl, habsent⟩
  whenever := by
    rintro ⟨project, w₁, w₂, hen, hm⟩
    obtain ⟨n, hd⟩ := hm.run_discover
    refine ⟨n, fun pages hp => ?_⟩
    have hn : (next pages project .empty).run (b.handler cancelAt) w₂ =
        .answered (.error (.notFound name)) w₂ := by
      rw [hempty]
      rfl
    exact run_seeking hen (hd pages hp) hn

theorem status_reportsAbsence (b : Backend σ) (cancelAt : Option Nat) (poll : PollConfig)
    (name : String) (spec : ProviderSpec) (secret : Secret) (w : World σ) :
    ReportsAbsence b cancelAt (fun pages => status ⟨poll, pages⟩ name spec secret) name w
      (Absent b cancelAt secret spec name w) := by
  refine reportsAbsence_seeking (fun pages project => ?_) fun pages project => ?_
  · rfl
  · exact Fails.done_ok _

theorem delete_reportsAbsence (b : Backend σ) (cancelAt : Option Nat) (poll : PollConfig)
    (name : String) (spec : ProviderSpec) (secret : Secret) (w : World σ) :
    ReportsAbsence b cancelAt (fun pages => delete ⟨poll, pages⟩ name spec secret) name w
      (Absent b cancelAt secret spec name w) := by
  refine reportsAbsence_seeking (fun pages project => ?_) fun pages project => ?_
  · rfl
  · intro r
    match r with
    | .error e =>
      dsimp only
      split
      · exact Fails.done_ok _
      · exact Fails.done_error e.toMachineError_grounded
    | .ok op => exact finish_fails changing_grounded _ _ _

/-- The question of a description for the machine of its id. -/
def getting (target : MachineId) : Plan (Except MachineError Instance) :=
  .ask (.call (.get target)) fun
    | .error e => Plan.fail (if e.isNotFound then .notFound target.name else e.toMachineError)
    | .ok i => Plan.succeed i

theorem run_getting_eq_notFound {target : MachineId} {m : String} :
    (getting target).run (b.handler cancelAt) w = .answered (.error (.notFound m)) w' ↔
      m = target.name ∧ ∃ text,
        b.handler cancelAt (.call (.get target)) w = .answered (.error (.api 404 text)) w' := by
  constructor
  · intro h
    unfold getting at h
    cases ha : b.handler cancelAt (.call (.get target)) w with
    | stuck w₂ =>
      rw [Program.run_ask_of_stuck _ ha] at h
      cases h
    | answered r w₂ =>
      rw [Program.run_ask_of_answered _ ha] at h
      match r, ha, h with
      | .ok i, _, h => cases h
      | .error e, _, h =>
        simp only [Plan.fail, Program.run, Program.Outcome.answered.injEq,
          Except.error.injEq] at h
        obtain ⟨hreport, rfl⟩ := h
        split at hreport
        · next he =>
          cases hreport
          obtain ⟨text, rfl⟩ := ServiceError.isNotFound_iff.mp he
          exact ⟨rfl, text, rfl⟩
        · have hg := e.toMachineError_grounded
          rw [hreport] at hg
          exact absurd hg (MachineError.not_grounded_notFound m)
  · rintro ⟨rfl, text, ha⟩
    exact Program.run_ask_of_answered _ ha

/-- **A description reports absence** exactly when the service answers that the instance is. -/
theorem describe_notFound_iff {id m : String} :
    (∃ w', b.run cancelAt (describe id secret) w = .answered (.error (.notFound m)) w') ↔
      ∃ target w₁ w₂ text, MachineId.parse? id = some target ∧ m = target.name ∧
        b.handler cancelAt (.connect secret) w = .answered (.ok ()) w₁ ∧
        b.handler cancelAt (.call (.get target)) w₁ = .answered (.error (.api 404 text)) w₂ := by
  unfold Backend.run describe
  split
  · next hid =>
    constructor
    · rintro ⟨w', h⟩
      cases h
    · rintro ⟨target, -, -, -, hid', -⟩
      rw [hid] at hid'
      cases hid'
  · next target hid =>
    constructor
    · rintro ⟨w', h⟩
      rcases Program.run_bindOk_eq_error.mp h with h | ⟨_, w₁, hc, h⟩
      · exact absurd ((connect_grounded secret).of_run h) (MachineError.not_grounded_notFound m)
      · obtain ⟨hm, text, ha⟩ := run_getting_eq_notFound.mp h
        exact ⟨target, w₁, w', text, hid, hm, run_connect_eq_ok.mp hc, ha⟩
    · rintro ⟨target', w₁, w₂, text, hid', hm, hc, ha⟩
      rw [hid] at hid'
      cases hid'
      refine ⟨w₂, ?_⟩
      rw [Program.run_bindOk_of_ok _ (run_connect_eq_ok.mpr hc)]
      exact run_getting_eq_notFound.mpr ⟨hm, text, ha⟩

/-- **A machine that vanishes before its deletion** counts as deleted. -/
theorem run_delete_of_vanished {poll : PollConfig} {earlier : List InstanceList}
    {last : InstanceList} {text : String} (hen : Entered b cancelAt secret w project w₁)
    (hloc : Located b cancelAt project spec.zone spec.tags name w₁ earlier last w₂)
    (hdel : b.handler cancelAt (.call (.delete ⟨project, spec.zone, name⟩)) w₂ =
      .answered (.error (.api 404 text)) w') (hp : earlier.length < pages) :
    ∃ w'', b.run cancelAt (delete ⟨poll, pages⟩ name spec secret) w =
      .answered (.ok (MachineId.text ⟨project, spec.zone, name⟩)) w'' := by
  have hd := hloc.run_discover hp
  exact run_seeking hen hd ((Program.run_ask_of_answered _ hdel).trans rfl)

/-- **Absence is reported exactly when it was established.** Reading an id and deleting report it
if and only if the project was entered and the machine is missing from it, and a machine that
vanishes between the search and its deletion counts as deleted. Describing reports it if and only
if the service answers so for the machine of the id. Creating and listing never report it. -/
theorem notFound_iff_absent (b : Backend σ) (cancelAt : Option Nat) (poll : PollConfig)
    (name : String) (spec : ProviderSpec) (secret : Secret) (w : World σ) :
    ReportsAbsence b cancelAt (fun pages => status ⟨poll, pages⟩ name spec secret) name w
      (Absent b cancelAt secret spec name w) ∧
    ReportsAbsence b cancelAt (fun pages => delete ⟨poll, pages⟩ name spec secret) name w
      (Absent b cancelAt secret spec name w) ∧
    (∀ project w₁ earlier last w₂ text w₃, Entered b cancelAt secret w project w₁ →
      Located b cancelAt project spec.zone spec.tags name w₁ earlier last w₂ →
      b.handler cancelAt (.call (.delete ⟨project, spec.zone, name⟩)) w₂ =
        .answered (.error (.api 404 text)) w₃ →
      ∀ pages, earlier.length < pages →
        ∃ w', b.run cancelAt (delete ⟨poll, pages⟩ name spec secret) w =
          .answered (.ok (MachineId.text ⟨project, spec.zone, name⟩)) w') ∧
    (∀ id m,
      (∃ w', b.run cancelAt (describe id secret) w = .answered (.error (.notFound m)) w') ↔
        ∃ target w₁ w₂ text, MachineId.parse? id = some target ∧ m = target.name ∧
          b.handler cancelAt (.connect secret) w = .answered (.ok ()) w₁ ∧
          b.handler cancelAt (.call (.get target)) w₁ = .answered (.error (.api 404 text)) w₂) ∧
    (∀ pages m w', b.run cancelAt (create ⟨poll, pages⟩ name spec secret) w ≠
      .answered (.error (.notFound m)) w') ∧
    ∀ pages m w', b.run cancelAt (list ⟨poll, pages⟩ spec secret) w ≠
      .answered (.error (.notFound m)) w' := by
  refine ⟨status_reportsAbsence b cancelAt poll name spec secret w,
    delete_reportsAbsence b cancelAt poll name spec secret w, ?_,
    fun id m => describe_notFound_iff, ?_, ?_⟩
  · intro project w₁ earlier last w₂ text w₃ hen hloc hdel pages hp
    exact run_delete_of_vanished hen hloc hdel hp
  · intro pages m w' h
    exact MachineError.not_grounded_notFound m ((create_fails changing_grounded).of_run h)
  · intro pages m w' h
    exact MachineError.not_grounded_notFound m ((list_fails changing_grounded.toPlain).of_run h)

end Lifecycle

end GceMachines
