import GceMachines.Proofs.Driver
import GceMachines.Proofs.InMemory.Coherence
import GceMachines.Proofs.InMemory.Results
import GceMachines.Proofs.Machine.Id
import GceMachines.Proofs.Machine.Secret
import GceMachines.Proofs.Spec.Admission

/-!
# What the id of a new machine is good for

A creation that succeeds has stored its machine and hands out its id. The gate keeps out empty zones
and empty projects, but it lets every name through, and zones, projects and names with slashes. The
id can be read exactly if the machine has a name and none of its parts has a slash; the instance
behind it is then the one that was created. In all other cases the machine is there, and the id that
was handed out is refused as malformed.

* `MachineId.Nameable`: the machines whose ids can be read, among those that pass the gate.
* `run_describe_of_stored`, `run_describe_of_malformed`: looking behind an id.
* `id_of_creation`: the id that a creation hands out.
-/

namespace GceMachines

/-- **A machine can be named** by an id: it has a name, and none of its parts has a slash. -/
def MachineId.Nameable (m : MachineId) : Prop :=
  m.name ≠ "" ∧ ∀ part ∈ [m.project, m.zone, m.name], '/' ∉ part.toList

instance (m : MachineId) : Decidable m.Nameable := by
  unfold MachineId.Nameable
  infer_instance

theorem MachineId.addressable_iff_nameable {m : MachineId} (hp : m.project ≠ "")
    (hz : m.zone ≠ "") : m.Addressable ↔ m.Nameable :=
  ⟨fun h => ⟨h.name_ne, h.slash_not_mem⟩, fun h => ⟨hp, hz, h.1, h.2⟩⟩

namespace InMemory

open Lifecycle

variable {refusal : Option ServiceError} {cancelAt : Option Nat} {limits : Limits} {name : String}
  {text : List UInt8} {spec : ProviderSpec} {secret : Secret} {project : String} {m : MachineId}
  {i : Instance} {id : String} {response : MachineResponse} {w w' : World InMemory}

/-! ### Looking behind an id -/

theorem refusal_eq_none_of_entered (h : Entered (backend refusal) cancelAt secret w project w') :
    refusal = none := by
  cases refusal with
  | none => rfl
  | some e => exact nomatch h.connected

/-- **The instance behind the id of a machine** that is stored and can be named. -/
theorem run_describe_of_stored (hm : m.Addressable) (hi : w.state.instances.get? m = some i)
    (cancelAt : Option Nat) (secret : Secret) :
    ∃ w', (backend none).run cancelAt (Lifecycle.describe m.text secret) w =
      .answered (.ok i) w' := by
  have hparse : MachineId.parse? m.text = some m := MachineId.parse?_eq_some_iff.mpr ⟨hm, rfl⟩
  obtain ⟨w₁, hconnect, hs⟩ : ∃ w₁, (backend none).handler cancelAt (.connect secret) w =
      .answered (.ok ()) w₁ ∧ w₁.state = w.state := ⟨_, rfl, rfl⟩
  have hget : InMemory.answer (.get m) w₁.state = (some (.ok i), w₁.state) := by
    simp only [InMemory.answer, InMemory.get, hs, hi]
  obtain ⟨w₂, hcall, -, -⟩ := call_of_answer hget
  refine ⟨w₂, ?_⟩
  unfold Backend.run Lifecycle.describe
  rw [hparse]
  dsimp only
  rw [Program.run_bindOk_of_ok _ (run_connect_eq_ok.mpr hconnect)]
  exact Program.run_ask_of_answered _ hcall

/-- **An id that cannot be read** is refused, and nothing is asked of the service. -/
theorem run_describe_of_malformed (h : MachineId.parse? id = none) (cancelAt : Option Nat)
    (secret : Secret) :
    (backend refusal).run cancelAt (Lifecycle.describe id secret) w =
      .answered (.error (.malformedIdentifier id)) w := by
  unfold Lifecycle.describe
  rw [h]
  rfl

/-- What the driver says of an id that cannot be read. -/
def malformed (id : String) : DriverError :=
  .ofCause ("Describe machine " ++ Text.quoted id) (.malformedIdentifier id)

/-- **Describing the machine of a text**: the instance that is stored, if the machine can be named,
and otherwise the text is refused. -/
theorem run_describe_text (hp : m.project ≠ "") (hz : m.zone ≠ "")
    (hi : w.state.instances.get? m = some i) (cancelAt : Option Nat) (secret : Secret) :
    (m.Nameable → ∃ w', (backend none).run cancelAt (Driver.describe m.text secret) w =
      .answered (.ok i) w') ∧
    (¬ m.Nameable → (backend none).run cancelAt (Driver.describe m.text secret) w =
      .answered (.error (malformed m.text)) w) := by
  rw [← MachineId.addressable_iff_nameable hp hz]
  constructor
  · intro hm
    obtain ⟨w', hrun⟩ := run_describe_of_stored hm hi cancelAt secret
    exact ⟨w', Driver.run_during_iff.mpr ⟨_, hrun, rfl⟩⟩
  · intro hm
    have hparse : MachineId.parse? m.text = none := by
      cases h : MachineId.parse? m.text with
      | none => rfl
      | some m' =>
        -- an id is that of one machine only, so it would be read as this one
        obtain ⟨hm', htext⟩ := MachineId.parse?_eq_some_iff.mp h
        exact absurd (MachineId.eq_of_text_eq hm' htext.symm ▸ hm') hm
    exact Driver.run_during_iff.mpr ⟨_, run_describe_of_malformed hparse cancelAt secret, rfl⟩

/-! ### A request that passes the gate -/

/-- A specification that breaks no rule. -/
def soundSpec : ProviderSpec :=
  { ProviderSpec.blank with
    disks := [{ Spec.Disk.blank with sizeGb := 50, type := "pd-ssd" }]
    machineType := "n1-standard-2"
    networkInterfaces := [⟨false, "shoot", ""⟩]
    region := "r"
    scheduling := ⟨false, "MIGRATE", false⟩
    serviceAccounts := [⟨"vm@p.iam", []⟩]
    zone := "z" }

/-- A secret for the project `p` that breaks no rule. -/
def soundSecret : Secret :=
  SortedMap.ofList [("credentialsConfig", []), ("projectID", [112]), ("userData", [])]

/-- The text of the specification. -/
def soundText : List UInt8 := Utf8.encode (ProviderSpec.format.encode soundSpec)

theorem project_soundSecret : Secret.project soundSecret = .ok "p" :=
  Secret.project_of_external [] (by decide +kernel) (by decide +kernel) (by decide)

theorem accept_soundText : Admission.accept soundText soundSecret = .ok soundSpec :=
  Admission.accept_encode (by decide +kernel)

theorem run_create_sound (name : String) :
    ∃ w' i, (backend none).run none (Driver.create ⟨.standard, 4⟩ name soundText soundSecret)
        (.start (InMemory.new 1 0)) =
          .answered (.ok ⟨MachineId.text ⟨"p", "z", name⟩, name⟩) w' ∧
      w'.state.instances.get? ⟨"p", "z", name⟩ = some i := by
  have hq : (InMemory.new 1 0).Quiet 1 0 := ⟨rfl, rfl, rfl, rfl⟩
  have hfree : (InMemory.new 1 0).instances.get? ⟨"p", soundSpec.zone, name⟩ = none := rfl
  obtain ⟨w', hrun, -, hstored⟩ :
      ∃ w', (backend none).run none (Lifecycle.create ⟨.standard, 4⟩ name soundSpec soundSecret)
        (.start (InMemory.new 1 0)) = _ ∧ _ ∧ _ := run_create_quiet hq project_soundSecret hfree
  have hcreate := Driver.run_create_eq_ok.mpr ⟨_, _, accept_soundText, hrun, rfl⟩
  have hthere := congrArg (SortedMap.get? · ⟨"p", soundSpec.zone, name⟩) hstored
  exact ⟨w', _, hcreate, hthere.trans SortedMap.get?_insert_self⟩

/-! ### The id of a creation -/

theorem id_of_run_create
    (h : (backend refusal).run cancelAt (Lifecycle.create limits name spec secret) w =
      .answered (.ok id) w') :
    refusal = none ∧ ∃ project, secret.project = .ok project ∧
      id = MachineId.text ⟨project, spec.zone, name⟩ := by
  obtain ⟨w₁, hends, -⟩ := run_create_iff.mp h
  cases hends with
  | @waited project _ _ _ op how _ hen hi hw hr =>
    refine ⟨refusal_eq_none_of_entered hen, project, hen.named, ?_⟩
    exact eq_text_of_settled_eq_ok hr.symm

/-- **The id that a creation hands out**, whatever was stored before, whatever failures are scripted
and whenever it is cancelled. A creation that succeeds has found its name free and has stored its
machine. The id is that of the project of the secret, the zone of the specification and the name.
It is read back as these, and describes the instance that is stored, exactly if the name is not
empty and no part has a slash. Otherwise the machine is stored all the same, and its id is refused
as malformed. -/
theorem id_of_creation
    (h : (backend refusal).run cancelAt (Driver.create limits name text secret) w =
      .answered (.ok response) w') :
    ∃ spec project uid i, Admission.accept text secret = .ok spec ∧
      secret.project = .ok project ∧
      w.state.instances.get? ⟨project, spec.zone, name⟩ = none ∧
      w'.state.instances.get? ⟨project, spec.zone, name⟩ = some i ∧
      i = { instanceBody name project spec secret.userData with
        id := some uid
        status := some "PROVISIONING"
        zone := some spec.zone
        selfLink := some (MachineId.path ⟨project, spec.zone, name⟩) } ∧
      response = ⟨MachineId.textOf project spec.zone name, name⟩ ∧
      (MachineId.partsOf response.providerId = .ok (project, spec.zone, name) ↔
        MachineId.Nameable ⟨project, spec.zone, name⟩) ∧
      ∀ cancelAt' (v : World InMemory), v.state.instances = w'.state.instances →
        (MachineId.Nameable ⟨project, spec.zone, name⟩ →
          ∃ v', (backend refusal).run cancelAt' (Driver.describe response.providerId secret) v =
            .answered (.ok i) v') ∧
        (¬ MachineId.Nameable ⟨project, spec.zone, name⟩ →
          (backend refusal).run cancelAt' (Driver.describe response.providerId secret) v =
            .answered (.error (malformed response.providerId)) v) := by
  obtain ⟨spec, id, haccept, hrun, rfl⟩ := Driver.run_create_eq_ok.mp h
  obtain ⟨rfl, project, hp, rfl⟩ := id_of_run_create hrun
  obtain ⟨w₁, hends, rfl⟩ := run_create_iff.mp hrun
  obtain ⟨project', uid, hp', hfree, hstored⟩ := (createTells_of_ends hends).stored _ rfl
  obtain rfl : project = project' := Except.ok.inj (hp.symm.trans hp')
  have hpne : project ≠ "" := Secret.project_ne hp
  have hzne : spec.zone ≠ "" := Admission.zone_ne (Admission.accept_eq_ok_iff.mp haccept).2
  refine ⟨spec, project, uid, _, haccept, hp, hfree, hstored, rfl, rfl, ?_, fun cancelAt' v hv => ?_⟩
  · rw [MachineId.partsOf_eq_ok_iff, ← MachineId.addressable_iff_nameable hpne hzne]
    exact and_iff_left rfl
  · have hi : v.state.instances.get? ⟨project, spec.zone, name⟩ = _ :=
      (congrArg (SortedMap.get? · _) hv).trans hstored
    exact run_describe_text hpne hzne hi cancelAt' secret

/-- A machine with a name is described by the id that its creation hands out. -/
theorem namedMachine_described :
    MachineId.Nameable ⟨"p", "z", "a"⟩ ∧
      MachineId.partsOf "gce:///p/z/a" = .ok ("p", "z", "a") ∧
      ∃ w' i v',
        (backend none).run none (Driver.create ⟨.standard, 4⟩ "a" soundText soundSecret)
          (.start (InMemory.new 1 0)) = .answered (.ok ⟨"gce:///p/z/a", "a"⟩) w' ∧
        w'.state.instances.get? ⟨"p", "z", "a"⟩ = some i ∧
        (backend none).run none (Driver.describe "gce:///p/z/a" soundSecret) w' =
          .answered (.ok i) v' := by
  obtain ⟨w', -, hcreate, -⟩ := run_create_sound "a"
  obtain ⟨spec, project, uid, i, haccept, hp, -, hstored, -, -, hread, hdescribe⟩ :=
    id_of_creation hcreate
  obtain rfl : soundSpec = spec := Except.ok.inj (accept_soundText.symm.trans haccept)
  obtain rfl : "p" = project := Except.ok.inj (project_soundSecret.symm.trans hp)
  have hname : MachineId.Nameable ⟨"p", "z", "a"⟩ := by decide
  obtain ⟨v', hrun⟩ := (hdescribe none w' rfl).1 hname
  exact ⟨hname, hread.mpr hname, w', i, v', hcreate, hstored, hrun⟩

/-- A machine without a name is stored, and the id that its creation hands out is refused. -/
theorem unnamedMachine_lost :
    ∃ w', (backend none).run none (Driver.create ⟨.standard, 4⟩ "" soundText soundSecret)
        (.start (InMemory.new 1 0)) = .answered (.ok ⟨"", ""⟩) w' ∧
      w'.state.instances.get? ⟨"p", "z", ""⟩ ≠ none ∧
      MachineId.partsOf "" ≠ .ok ("p", "z", "") ∧
      (backend none).run none (Driver.describe "" soundSecret) w' =
        .answered (.error (malformed "")) w' := by
  obtain ⟨w', i, hcreate, hstored⟩ := run_create_sound ""
  have hparse : MachineId.parse? "" = none := rfl
  refine ⟨w', hcreate, ?_, ?_, ?_⟩
  · rw [hstored]
    exact Option.some_ne_none i
  · unfold MachineId.partsOf
    rw [hparse]
    rintro ⟨⟩
  · exact Driver.run_during_iff.mpr ⟨_, run_describe_of_malformed hparse none soundSecret, rfl⟩

end InMemory

end GceMachines
