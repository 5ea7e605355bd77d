import GceMachines.Proofs.Lifecycle.Absence
import GceMachines.Proofs.Lifecycle.Endings
import GceMachines.Proofs.Text.Integer
import GceMachines.Proofs.Text.Substring

/-!
# Reports of exhaustion

A zone without room and a quota that is used up are reported apart from all other failures, because
whoever hears of them waits longer before the next attempt. They are reported on two grounds only:
an insertion is refused with the words for them, or the operation of a change is done and the first
of its errors has one of the codes for them. Every other failure of the service is passed on as it
is, whatever it says.

* `OutOfRoom`: an operation whose errors speak of exhaustion, with the text of the report.
* `create_resourceExhausted_iff`, `delete_resourceExhausted_iff`: the reports of the two changes.
* `FailsPlainly`, `PassesOn`: failures of the service that are passed on as they are.
* `resourceExhausted_iff_outOfRoom`: which reports there are, and when.
-/

namespace GceMachines

/-! ### The words and the codes -/

/-- What stands in front of the text of a refusal lacks the first letter of the words. -/
theorem ServiceError.notMem_front (status : Nat) :
    'd' ∉ ("googleapi: Error " ++ toString status ++ ": ").toList := by
  rw [String.toList_append, String.toList_append, List.mem_append, List.mem_append]
  rintro ((h | h) | h)
  · exact absurd h (by decide)
  · exact absurd (Text.isDigit_of_mem_toString h) (by decide)
  · exact absurd h (by decide)

/-- **The HTTP status in front of a refusal adds nothing to what it says.** -/
theorem ServiceError.missingInZone_api {status : Nat} {text : String} :
    Lifecycle.missingInZone.toList <:+: (ServiceError.api status text).message.toList ↔
      Lifecycle.missingInZone.toList <:+: text.toList := by
  have hwords : Lifecycle.missingInZone.toList = 'd' :: "oes not exist in zone".toList := by decide
  have happend : (ServiceError.api status text).message.toList =
      ("googleapi: Error " ++ toString status ++ ": ").toList ++ text.toList :=
    String.toList_append
  rw [hwords, happend]
  exact Text.infix_append_iff (ServiceError.notMem_front status)

namespace Lifecycle

open Program (Fails)

theorem isExhaustionCode_iff {code : String} :
    isExhaustionCode code = true ↔ code ∈ capacityCodes ∨ "QUOTA".toList <:+: code.toList := by
  unfold isExhaustionCode
  rw [Bool.or_eq_true, decide_eq_true_iff, Text.contains_iff]

/-- A failure that does not speak of exhaustion. -/
def Sufficient (e : MachineError) : Prop := ∀ text, e ≠ .resourceExhausted text

theorem toMachineError_sufficient (e : ServiceError) : Sufficient e.toMachineError := by
  cases e <;> nofun

theorem plain_sufficient : Plain Sufficient :=
  ⟨toMachineError_sufficient, fun _ => nofun, fun _ => nofun⟩

/-- **An insertion that is refused** speaks of exhaustion exactly if its text has the words. -/
theorem ofSubmission_eq_resourceExhausted {e : ServiceError} {text : String} :
    ofSubmission e = .resourceExhausted text ↔
      missingInZone.toList <:+: e.message.toList ∧ text = e.message := by
  unfold ofSubmission
  rw [← Text.contains_iff]
  split
  · next h =>
    constructor
    · rintro ⟨⟩
      exact ⟨h, rfl⟩
    · rintro ⟨-, rfl⟩
      rfl
  · next h =>
    constructor
    · intro he
      exact absurd he (toMachineError_sufficient e text)
    · rintro ⟨h', -⟩
      exact absurd h' h

/-- **An operation that ran out of room or quota**: it has errors, the first of which has one of
the codes for that. The text tells all errors, in their order. -/
def OutOfRoom (op : Operation) (text : String) : Prop :=
  ∃ first rest, op.error = some ⟨first :: rest⟩ ∧
    (first.code ∈ capacityCodes ∨ "QUOTA".toList <:+: first.code.toList) ∧
    text = "; ".intercalate ((first :: rest).map OperationFault.message)

theorem verdict_eq_resourceExhausted {name text : String} {op : Operation} :
    verdict name (.ok op) = .error (.resourceExhausted text) ↔ OutOfRoom op text := by
  unfold OutOfRoom verdict
  simp only [← isExhaustionCode_iff]
  match op.error with
  | none => simp
  | some ⟨[]⟩ => simp [ofOperation]
  | some ⟨first :: rest⟩ =>
    simp only [ofOperation]
    split
    · next hcode =>
      constructor
      · rintro ⟨⟩
        exact ⟨first, rest, rfl, hcode, rfl⟩
      · rintro ⟨_, _, ⟨⟩, -, rfl⟩
        rfl
    · next hcode =>
      constructor
      · rintro ⟨⟩
      · rintro ⟨_, _, ⟨⟩, hcode', -⟩
        exact absurd hcode' hcode

theorem settled_eq_resourceExhausted {poll : PollConfig} {m : MachineId} {op : Operation}
    {how : Waited (Except ServiceError Operation)} {text : String} :
    settled poll m op how = .error (.resourceExhausted text) ↔
      ∃ shown, how = .came (.ok shown) ∧ OutOfRoom shown text := by
  match how with
  | .cancelled => simp [settled, meaning, Except.map]
  | .late => simp [settled, meaning, Except.map]
  | .came (.error e) =>
    have := toMachineError_sufficient e text
    simp [settled, meaning, verdict, Except.map, this]
  | .came (.ok shown) =>
    have hv : verdict op.name (.ok shown) = .error (.resourceExhausted text) ↔
        OutOfRoom shown text := verdict_eq_resourceExhausted
    unfold settled meaning
    dsimp only
    cases hr : verdict op.name (.ok shown) with
    | ok u =>
      rw [hr] at hv
      simpa [Except.map] using hv
    | error e =>
      rw [hr] at hv
      simpa [Except.map] using hv

/-! ### The two changes -/

variable {σ α : Type} {b : Backend σ} {cancelAt : Option Nat} {limits : Limits} {name : String}
  {spec : ProviderSpec} {secret : Secret} {project : String} {w w₁ w₂ w₃ : World σ}
  {text : String} {e : ServiceError}

/-- **The wait for a change ends for want of room**: with an operation that is done and ran out of
room, before the deadline of the wait and before the cancellation. -/
def RanOut (b : Backend σ) (cancelAt : Option Nat) (poll : PollConfig) (m : MachineId)
    (op : Operation) (w : World σ) (text : String) : Prop :=
  ∃ shown w', WaitEnded b cancelAt (awaited m op) poll w (.came (.ok shown)) w' ∧
    shown.isDone = true ∧ w'.now < w.now + poll.timeoutMs ∧ (∀ c ∈ cancelAt, w'.now < c) ∧
    OutOfRoom shown text

theorem ranOut_iff {poll : PollConfig} {m : MachineId} {op : Operation} :
    RanOut b cancelAt poll m op w text ↔
      ∃ how w', WaitEnded b cancelAt (awaited m op) poll w how w' ∧
        settled poll m op how = .error (.resourceExhausted text) := by
  constructor
  · rintro ⟨shown, w', hw, -, -, -, hout⟩
    exact ⟨_, w', hw, settled_eq_resourceExhausted.mpr ⟨shown, rfl, hout⟩⟩
  · rintro ⟨how, w', hw, hs⟩
    obtain ⟨shown, rfl, hout⟩ := settled_eq_resourceExhausted.mp hs
    obtain ⟨hdone, hc, hd⟩ := hw.inTime
    exact ⟨shown, w', hw, hdone, hd, hc, hout⟩

/-- **A creation reports exhaustion** exactly if its insertion is refused with the words for it, or
is accepted and its operation ran out of room. -/
theorem create_resourceExhausted_iff :
    (∃ w', b.run cancelAt (create limits name spec secret) w =
      .answered (.error (.resourceExhausted text)) w') ↔
      ∃ project w₁, Entered b cancelAt secret w project w₁ ∧
        ((∃ e w₂, b.handler cancelAt (.call (insertion project name spec secret)) w₁ =
            .answered (.error e) w₂ ∧
            missingInZone.toList <:+: e.message.toList ∧ text = e.message) ∨
          ∃ op w₂, b.handler cancelAt (.call (insertion project name spec secret)) w₁ =
            .answered (.ok op) w₂ ∧
            RanOut b cancelAt limits.poll ⟨project, spec.zone, name⟩ op w₂ text) := by
  constructor
  · rintro ⟨w', h⟩
    obtain ⟨w₃, hends, -⟩ := run_create_iff.mp h
    generalize hr : Except.error (MachineError.resourceExhausted text) = r at hends
    cases hends with
    | outside h =>
      cases hr
      exact absurd rfl ((enter_fails plain_sufficient secret).of_run h text)
    | @refused project w₁ _ e hen hi =>
      have := ofSubmission_eq_resourceExhausted.mp (Except.error.inj hr).symm
      exact ⟨project, w₁, hen, .inl ⟨e, _, hi, this⟩⟩
    | @waited project w₁ w₂ _ op _ _ hen hi hw hsettled =>
      have := ranOut_iff.mpr ⟨_, _, hw, (hr.trans hsettled).symm⟩
      exact ⟨project, w₁, hen, .inr ⟨op, w₂, hi, this⟩⟩
  · rintro ⟨project, w₁, hen, ⟨e, w₂, hi, hwords⟩ | ⟨op, w₂, hi, hout⟩⟩
    · have hends : CreateEnds b cancelAt limits.poll name spec secret w
          (.error (ofSubmission e)) w₂ := .refused hen hi
      rw [ofSubmission_eq_resourceExhausted.mpr hwords] at hends
      exact ⟨_, run_create_iff.mpr ⟨_, hends, rfl⟩⟩
    · obtain ⟨how, w₃, hw, hs⟩ := ranOut_iff.mp hout
      exact ⟨_, run_create_iff.mpr ⟨_, .waited hen hi hw hs.symm, rfl⟩⟩

theorem ofRefusedDeletion_sufficient {m : MachineId} :
    ofRefusedDeletion m e ≠ .error (.resourceExhausted text) := by
  unfold ofRefusedDeletion
  split
  · nofun
  · exact fun h => toMachineError_sufficient e text (Except.error.inj h)

/-- **A deletion reports exhaustion** exactly if it is accepted and its operation ran out of room.
-/
theorem delete_resourceExhausted_iff :
    (∃ w', b.run cancelAt (delete limits name spec secret) w =
      .answered (.error (.resourceExhausted text)) w') ↔
      ∃ project w₁ earlier last w₂ op w₃, Entered b cancelAt secret w project w₁ ∧
        Located b cancelAt project spec.zone spec.tags name w₁ earlier last w₂ ∧
        earlier.length < limits.pages ∧
        b.handler cancelAt (.call (deletion project name spec)) w₂ = .answered (.ok op) w₃ ∧
        RanOut b cancelAt limits.poll ⟨project, spec.zone, name⟩ op w₃ text := by
  constructor
  · rintro ⟨w', h⟩
    obtain ⟨w₄, hends, -⟩ := run_delete_iff.mp h
    generalize hr : Except.error (MachineError.resourceExhausted text) = r at hends
    cases hends with
    | outside h =>
      cases hr
      exact absurd rfl ((enter_fails plain_sufficient secret).of_run h text)
    | unsearched hen hs =>
      cases hr
      exact absurd rfl ((discover_fails plain_sufficient _ _ _ _ _).of_run hs text)
    | missing => cases hr
    | refused _ _ _ _ hrefused => exact absurd (hr.trans hrefused).symm ofRefusedDeletion_sufficient
    | @waited project w₁ w₂ w₃ _ earlier last op _ _ hen hloc hlen hd hw hsettled =>
      have := ranOut_iff.mpr ⟨_, _, hw, (hr.trans hsettled).symm⟩
      exact ⟨project, w₁, earlier, last, w₂, op, w₃, hen, hloc, hlen, hd, this⟩
  · rintro ⟨project, w₁, earlier, last, w₂, op, w₃, hen, hloc, hlen, hd, hout⟩
    obtain ⟨how, w₄, hw, hs⟩ := ranOut_iff.mp hout
    exact ⟨_, run_delete_iff.mpr ⟨_, .waited hen hloc hlen hd hw hs.symm, rfl⟩⟩

/-! ### Failures that are passed on -/

/-- **A call fails with a failure of the service as it is.** -/
def FailsPlainly (b : Backend σ) (cancelAt : Option Nat) (w : World σ) (e : ServiceError)
    (p : Plan (Except MachineError α)) : Prop :=
  ∃ w', b.run cancelAt p w = .answered (.error e.toMachineError) w'

variable {call : LifecycleCall} {f : String → Plan (Except MachineError α)}

theorem run_connect_of_refused
    (hc : b.handler cancelAt (.connect secret) w = .answered (.error e) w₁) :
    (connect secret).run (b.handler cancelAt) w = .answered (.error e.toMachineError) w₁ :=
  Program.run_ask_of_answered _ hc

theorem failsPlainly_of_refused (hp : secret.project = .ok project)
    (hc : b.handler cancelAt (.connect secret) w = .answered (.error e) w₁) :
    FailsPlainly b cancelAt w e (counted call ((enter secret).bindOk f)) := by
  have hf : (enter secret).run (b.handler cancelAt) w =
      .answered (.error e.toMachineError) w₁ := by
    unfold enter
    rw [hp]
    exact Program.run_bindOk_of_error _ (run_connect_of_refused hc)
  exact run_counted_of_answered (Program.run_bindOk_of_error _ hf)

theorem failsPlainly_of_entered (hen : Entered b cancelAt secret w project w₁)
    (hf : (f project).run (b.handler cancelAt) w₁ = .answered (.error e.toMachineError) w₂) :
    FailsPlainly b cancelAt w e (counted call ((enter secret).bindOk f)) := by
  have h := Program.run_bindOk_of_ok f (run_enter_eq_ok.mpr hen)
  exact run_counted_of_answered (h.trans hf)

theorem describe_failsPlainly {id : String} {target : MachineId}
    (hid : MachineId.parse? id = some target)
    (hc : b.handler cancelAt (.connect secret) w = .answered (.error e) w₁) :
    FailsPlainly b cancelAt w e (describe id secret) := by
  refine ⟨w₁, ?_⟩
  unfold Backend.run describe
  rw [hid]
  exact Program.run_bindOk_of_error _ (run_connect_of_refused hc)

/-- **Failures of the service that are passed on**, whatever they say: those of the connection, of
a page, of a deletion and of a look at an operation. -/
structure PassesOn (b : Backend σ) (cancelAt : Option Nat) (limits : Limits) (name : String)
    (spec : ProviderSpec) (secret : Secret) (w : World σ) : Prop where
  connecting : ∀ project e w₁, secret.project = .ok project →
    b.handler cancelAt (.connect secret) w = .answered (.error e) w₁ →
    FailsPlainly b cancelAt w e (create limits name spec secret) ∧
    FailsPlainly b cancelAt w e (delete limits name spec secret) ∧
    FailsPlainly b cancelAt w e (status limits name spec secret) ∧
    FailsPlainly b cancelAt w e (list limits spec secret)
  connectingAlone : ∀ id target e w₁, MachineId.parse? id = some target →
    b.handler cancelAt (.connect secret) w = .answered (.error e) w₁ →
    FailsPlainly b cancelAt w e (describe id secret)
  listing : ∀ project w₁ earlier e w₂, Entered b cancelAt secret w project w₁ →
    (Markers.ofTags spec.tags).complete? ≠ none →
    Broken b cancelAt project spec.zone none w₁ earlier e w₂ → earlier.length < limits.pages →
    FailsPlainly b cancelAt w e (list limits spec secret) ∧
    ((∀ i ∈ itemsOf earlier, ¬ Owns spec.tags name i) →
      FailsPlainly b cancelAt w e (delete limits name spec secret) ∧
      FailsPlainly b cancelAt w e (status limits name spec secret))
  deleting : ∀ project w₁ earlier last w₂ e w₃, Entered b cancelAt secret w project w₁ →
    Located b cancelAt project spec.zone spec.tags name w₁ earlier last w₂ →
    earlier.length < limits.pages →
    b.handler cancelAt (.call (deletion project name spec)) w₂ = .answered (.error e) w₃ →
    e.isNotFound = false → FailsPlainly b cancelAt w e (delete limits name spec secret)
  lookAtCreation : ∀ project w₁ op w₂ e w₃, Entered b cancelAt secret w project w₁ →
    b.handler cancelAt (.call (insertion project name spec secret)) w₁ = .answered (.ok op) w₂ →
    WaitEnded b cancelAt (awaited ⟨project, spec.zone, name⟩ op) limits.poll w₂
      (.came (.error e)) w₃ →
    FailsPlainly b cancelAt w e (create limits name spec secret)
  lookAtDeletion : ∀ project w₁ earlier last w₂ op w₃ e w₄, Entered b cancelAt secret w project w₁ →
    Located b cancelAt project spec.zone spec.tags name w₁ earlier last w₂ →
    earlier.length < limits.pages →
    b.handler cancelAt (.call (deletion project name spec)) w₂ = .answered (.ok op) w₃ →
    WaitEnded b cancelAt (awaited ⟨project, spec.zone, name⟩ op) limits.poll w₃
      (.came (.error e)) w₄ →
    FailsPlainly b cancelAt w e (delete limits name spec secret)

theorem passesOn (b : Backend σ) (cancelAt : Option Nat) (limits : Limits) (name : String)
    (spec : ProviderSpec) (secret : Secret) (w : World σ) :
    PassesOn b cancelAt limits name spec secret w where
  connecting := by
    intro project e w₁ hp hc
    exact ⟨failsPlainly_of_refused hp hc, failsPlainly_of_refused hp hc,
      failsPlainly_of_refused hp hc, failsPlainly_of_refused hp hc⟩
  connectingAlone := fun _ _ _ _ hid hc => describe_failsPlainly hid hc
  listing := by
    intro project w₁ earlier e w₂ hen hc hbroken hlen
    refine ⟨failsPlainly_of_entered hen (hbroken.run_discover hlen hc nofun), fun hnowhere => ?_⟩
    have hd : (discover limits.pages project spec.zone spec.tags (some name)).run
        (b.handler cancelAt) w₁ = .answered (.error e.toMachineError) w₂ :=
      hbroken.run_discover hlen hc fun _ hname => Option.some.inj hname ▸ hnowhere
    exact ⟨failsPlainly_of_entered hen (Program.run_bindOk_of_error _ hd),
      failsPlainly_of_entered hen (Program.run_bindOk_of_error _ hd)⟩
  deleting := by
    intro project w₁ earlier last w₂ e w₃ hen hloc hlen hd he
    refine ⟨_, run_delete_iff.mpr ⟨w₃, .refused hen hloc hlen hd ?_, rfl⟩⟩
    unfold ofRefusedDeletion
    rw [he, if_neg Bool.false_ne_true]
  lookAtCreation := fun _ _ _ _ _ _ hen hi hw =>
    ⟨_, run_create_iff.mpr ⟨_, .waited hen hi hw rfl, rfl⟩⟩
  lookAtDeletion := fun _ _ _ _ _ _ _ _ _ hen hloc hlen hd hw =>
    ⟨_, run_delete_iff.mpr ⟨_, .waited hen hloc hlen hd hw rfl, rfl⟩⟩

/-- **Exhaustion is reported exactly when room or quota ran out.** A creation reports it if and
only if its insertion is refused with the words for it, and then with the text of the refusal, or
its operation ran out of room, and then with the texts of all errors. A deletion reports it if and
only if its operation ran out of room. The other calls never report it. The words are in the text
of a refusal with an HTTP status exactly if they are in what it says, and the failures of the
connection, of pages, of deletions and of looks are passed on as they are. -/
theorem resourceExhausted_iff_outOfRoom (b : Backend σ) (cancelAt : Option Nat) (limits : Limits)
    (name : String) (spec : ProviderSpec) (secret : Secret) (w : World σ) :
    (∀ text, (∃ w', b.run cancelAt (create limits name spec secret) w =
        .answered (.error (.resourceExhausted text)) w') ↔
      ∃ project w₁, Entered b cancelAt secret w project w₁ ∧
        ((∃ e w₂, b.handler cancelAt (.call (insertion project name spec secret)) w₁ =
            .answered (.error e) w₂ ∧
            missingInZone.toList <:+: e.message.toList ∧ text = e.message) ∨
          ∃ op w₂, b.handler cancelAt (.call (insertion project name spec secret)) w₁ =
            .answered (.ok op) w₂ ∧
            RanOut b cancelAt limits.poll ⟨project, spec.zone, name⟩ op w₂ text)) ∧
    (∀ text, (∃ w', b.run cancelAt (delete limits name spec secret) w =
        .answered (.error (.resourceExhausted text)) w') ↔
      ∃ project w₁ earlier last w₂ op w₃, Entered b cancelAt secret w project w₁ ∧
        Located b cancelAt project spec.zone spec.tags name w₁ earlier last w₂ ∧
        earlier.length < limits.pages ∧
        b.handler cancelAt (.call (deletion project name spec)) w₂ = .answered (.ok op) w₃ ∧
        RanOut b cancelAt limits.poll ⟨project, spec.zone, name⟩ op w₃ text) ∧
    (∀ text w', b.run cancelAt (status limits name spec secret) w ≠
      .answered (.error (.resourceExhausted text)) w') ∧
    (∀ text w', b.run cancelAt (list limits spec secret) w ≠
      .answered (.error (.resourceExhausted text)) w') ∧
    (∀ id text w', b.run cancelAt (describe id secret) w ≠
      .answered (.error (.resourceExhausted text)) w') ∧
    (∀ status text, missingInZone.toList <:+: (ServiceError.api status text).message.toList ↔
      missingInZone.toList <:+: text.toList) ∧
    PassesOn b cancelAt limits name spec secret w := by
  refine ⟨fun _ => create_resourceExhausted_iff, fun _ => delete_resourceExhausted_iff, ?_, ?_, ?_,
    fun _ _ => ServiceError.missingInZone_api, passesOn b cancelAt limits name spec secret w⟩
  · intro text w' h
    exact (status_fails plain_sufficient fun _ => nofun).of_run h text rfl
  · intro text w' h
    exact (list_fails plain_sufficient).of_run h text rfl
  · intro id text w' h
    exact (describe_fails plain_sufficient (fun _ _ _ => nofun) fun _ _ => nofun).of_run h text
      rfl

end Lifecycle

end GceMachines
