import GceMachines.Proofs.Lifecycle.Entering
import GceMachines.Proofs.Lifecycle.Located
import GceMachines.Proofs.Lifecycle.Looks

/-!
# How creations and deletions end

A creation that has entered its project asks for an insertion, and a deletion asks for the removal
of the machine that it has found. Either change is refused, or it is accepted and its operation is
waited for. These are all the ways in which the two calls end, whatever the service answers, and
every one of them is an end of theirs.

* `CreateEnds`, `DeleteEnds`: the ways in which the two calls end.
* `run_create_iff`, `run_delete_iff`: the runs of the two calls go these ways.
* `Entered.leads`, `Walked.leads`, `Looked.leads`: what is asked on the parts of these ways.
-/

namespace GceMachines.Lifecycle

variable {σ : Type} {b : Backend σ} {cancelAt : Option Nat} {limits : Limits} {name : String}
  {spec : ProviderSpec} {secret : Secret} {w w' : World σ} {r : Except MachineError String}

/-- The operation of a change of a machine, as it is waited for. -/
abbrev awaited (m : MachineId) (op : Operation) : Awaited := ⟨m.project, m.zone, op.name⟩

/-- What the end of the wait for a change makes of the call. -/
def settled (poll : PollConfig) (m : MachineId) (op : Operation)
    (how : Waited (Except ServiceError Operation)) : Except MachineError String :=
  (meaning (awaited m op) poll how).map fun _ => m.text

theorem eq_text_of_settled_eq_ok {poll : PollConfig} {m : MachineId} {op : Operation}
    {how : Waited (Except ServiceError Operation)} {id : String}
    (h : settled poll m op how = .ok id) : id = m.text := by
  unfold settled at h
  cases hm : meaning (awaited m op) poll how with
  | error e =>
    rw [hm] at h
    cases h
  | ok u =>
    rw [hm] at h
    cases h
    rfl

theorem run_finish_iff {m : MachineId} {op : Operation} :
    (finish limits m op).run (b.handler cancelAt) w = .answered r w' ↔
      ∃ how w₁, WaitEnded b cancelAt (awaited m op) limits.poll w how w₁ ∧
        r = settled limits.poll m op how ∧ w' = w₁.measure .operationWait := by
  unfold finish Plan.succeed
  rw [Program.run_bindOk_done]
  constructor
  · rintro ⟨r', h, rfl⟩
    obtain ⟨how, w₁, hw, rfl, rfl⟩ := run_awaitOperation_iff.mp h
    exact ⟨how, w₁, hw, rfl, rfl⟩
  · rintro ⟨how, w₁, hw, rfl, rfl⟩
    exact ⟨_, run_awaitOperation_iff.mpr ⟨how, w₁, hw, rfl, rfl⟩, rfl⟩

/-! ### Creations -/

/-- The insertion that a creation asks for. -/
abbrev insertion (project name : String) (spec : ProviderSpec) (secret : Secret) : Request :=
  .insert project spec.zone (instanceBody name project spec secret.userData)

/-- **The ways in which a creation ends.** -/
inductive CreateEnds (b : Backend σ) (cancelAt : Option Nat) (poll : PollConfig) (name : String)
    (spec : ProviderSpec) (secret : Secret) (w : World σ) :
    Except MachineError String → World σ → Prop
  /-- The project was not entered. -/
  | outside {e : MachineError} {w' : World σ}
      (h : (enter secret).run (b.handler cancelAt) w = .answered (.error e) w') :
      CreateEnds b cancelAt poll name spec secret w (.error e) w'
  /-- The insertion was refused. -/
  | refused {project : String} {w₁ w' : World σ} {e : ServiceError}
      (hen : Entered b cancelAt secret w project w₁)
      (hi : b.handler cancelAt (.call (insertion project name spec secret)) w₁ =
        .answered (.error e) w') :
      CreateEnds b cancelAt poll name spec secret w (.error (ofSubmission e)) w'
  /-- The insertion was accepted, and the wait for it has ended. -/
  | waited {project : String} {w₁ w₂ w₃ : World σ} {op : Operation}
      {how : Waited (Except ServiceError Operation)} {r : Except MachineError String}
      (hen : Entered b cancelAt secret w project w₁)
      (hi : b.handler cancelAt (.call (insertion project name spec secret)) w₁ =
        .answered (.ok op) w₂)
      (hw : WaitEnded b cancelAt (awaited ⟨project, spec.zone, name⟩ op) poll w₂ how w₃)
      (hr : r = settled poll ⟨project, spec.zone, name⟩ op how) :
      CreateEnds b cancelAt poll name spec secret w r (w₃.measure .operationWait)

/-- **The runs of a creation.** -/
theorem run_create_iff :
    b.run cancelAt (create limits name spec secret) w = .answered r w' ↔
      ∃ w₁, CreateEnds b cancelAt limits.poll name spec secret w r w₁ ∧
        w' = w₁.measure (.finished .create (failure? r)) := by
  unfold Backend.run create
  rw [run_counted_iff]
  refine exists_congr fun w₁ => and_congr_left fun _ => ?_
  constructor
  · intro h
    rcases Program.run_bindOk_eq_answered.mp h with ⟨e, rfl, hf⟩ | ⟨project, w₂, hen, h⟩
    · exact .outside hf
    · have hen := run_enter_eq_ok.mp hen
      cases hi : b.handler cancelAt (.call (insertion project name spec secret)) w₂ with
      | stuck w₃ =>
        rw [Program.run_ask_of_stuck _ hi] at h
        cases h
      | answered reply w₃ =>
        rw [Program.run_ask_of_answered _ hi] at h
        match reply, hi, h with
        | .error e, hi, h =>
          cases h
          exact .refused hen hi
        | .ok op, hi, h =>
          obtain ⟨how, w₄, hw, hr, rfl⟩ := run_finish_iff.mp h
          exact .waited hen hi hw hr
  · intro h
    cases h with
    | outside h => exact Program.run_bindOk_of_error _ h
    | refused hen hi =>
      rw [Program.run_bindOk_of_ok _ (run_enter_eq_ok.mpr hen)]
      exact Program.run_ask_of_answered _ hi
    | waited hen hi hw hr =>
      rw [Program.run_bindOk_of_ok _ (run_enter_eq_ok.mpr hen)]
      refine (Program.run_ask_of_answered _ hi).trans ?_
      exact run_finish_iff.mpr ⟨_, _, hw, hr, rfl⟩

/-! ### Deletions -/

/-- The deletion of a machine, as it is asked for. -/
abbrev deletion (project name : String) (spec : ProviderSpec) : Request :=
  .delete ⟨project, spec.zone, name⟩

/-- What a refused deletion makes of the call: a machine that has vanished counts as deleted. -/
def ofRefusedDeletion (m : MachineId) (e : ServiceError) : Except MachineError String :=
  if e.isNotFound then .ok m.text else .error e.toMachineError

/-- **The ways in which a deletion ends.** -/
inductive DeleteEnds (b : Backend σ) (cancelAt : Option Nat) (limits : Limits) (name : String)
    (spec : ProviderSpec) (secret : Secret) (w : World σ) :
    Except MachineError String → World σ → Prop
  /-- The project was not entered. -/
  | outside {e : MachineError} {w' : World σ}
      (h : (enter secret).run (b.handler cancelAt) w = .answered (.error e) w') :
      DeleteEnds b cancelAt limits name spec secret w (.error e) w'
  /-- The search failed. -/
  | unsearched {project : String} {w₁ w' : World σ} {e : MachineError}
      (hen : Entered b cancelAt secret w project w₁)
      (hs : (discover limits.pages project spec.zone spec.tags (some name)).run
        (b.handler cancelAt) w₁ = .answered (.error e) w') :
      DeleteEnds b cancelAt limits name spec secret w (.error e) w'
  /-- The search found nothing. -/
  | missing {project : String} {w₁ w' : World σ}
      (hen : Entered b cancelAt secret w project w₁)
      (hs : (discover limits.pages project spec.zone spec.tags (some name)).run
        (b.handler cancelAt) w₁ = .answered (.ok .empty) w') :
      DeleteEnds b cancelAt limits name spec secret w (.error (.notFound name)) w'
  /-- The deletion was refused. -/
  | refused {project : String} {w₁ w₂ w' : World σ} {earlier : List InstanceList}
      {last : InstanceList} {e : ServiceError} {r : Except MachineError String}
      (hen : Entered b cancelAt secret w project w₁)
      (hloc : Located b cancelAt project spec.zone spec.tags name w₁ earlier last w₂)
      (hlen : earlier.length < limits.pages)
      (hd : b.handler cancelAt (.call (deletion project name spec)) w₂ = .answered (.error e) w')
      (hr : r = ofRefusedDeletion ⟨project, spec.zone, name⟩ e) :
      DeleteEnds b cancelAt limits name spec secret w r w'
  /-- The deletion was accepted, and the wait for it has ended. -/
  | waited {project : String} {w₁ w₂ w₃ w₄ : World σ} {earlier : List InstanceList}
      {last : InstanceList} {op : Operation} {how : Waited (Except ServiceError Operation)}
      {r : Except MachineError String}
      (hen : Entered b cancelAt secret w project w₁)
      (hloc : Located b cancelAt project spec.zone spec.tags name w₁ earlier last w₂)
      (hlen : earlier.length < limits.pages)
      (hd : b.handler cancelAt (.call (deletion project name spec)) w₂ = .answered (.ok op) w₃)
      (hw : WaitEnded b cancelAt (awaited ⟨project, spec.zone, name⟩ op) limits.poll w₃ how w₄)
      (hr : r = settled limits.poll ⟨project, spec.zone, name⟩ op how) :
      DeleteEnds b cancelAt limits name spec secret w r (w₄.measure .operationWait)

/-- What a deletion does with what its search has found. -/
def removing (limits : Limits) (m : MachineId) (found : Discovered) :
    Plan (Except MachineError String) :=
  if found.isEmpty then Plan.fail (.notFound m.name)
  else
    .ask (.call (.delete m)) fun
      | .error e => if e.isNotFound then Plan.succeed m.text else Plan.fail e.toMachineError
      | .ok op => finish limits m op

theorem run_removing_iff {m : MachineId} {found : Discovered} (hf : found.isEmpty = false) :
    (removing limits m found).run (b.handler cancelAt) w = .answered r w' ↔
      (∃ e, b.handler cancelAt (.call (.delete m)) w = .answered (.error e) w' ∧
        r = ofRefusedDeletion m e) ∨
      ∃ op w₁ how w₂, b.handler cancelAt (.call (.delete m)) w = .answered (.ok op) w₁ ∧
        WaitEnded b cancelAt (awaited m op) limits.poll w₁ how w₂ ∧
        r = settled limits.poll m op how ∧ w' = w₂.measure .operationWait := by
  unfold removing
  rw [hf, if_neg Bool.false_ne_true]
  constructor
  · intro h
    cases hd : b.handler cancelAt (.call (.delete m)) w with
    | stuck w₁ =>
      rw [Program.run_ask_of_stuck _ hd] at h
      cases h
    | answered reply w₁ =>
      rw [Program.run_ask_of_answered _ hd] at h
      match reply, h with
      | .error e, h =>
        refine .inl ⟨e, ?_⟩
        unfold ofRefusedDeletion
        dsimp only at h
        split
        · next hn =>
          rw [if_pos hn] at h
          cases h
          exact ⟨rfl, rfl⟩
        · next hn =>
          rw [if_neg hn] at h
          cases h
          exact ⟨rfl, rfl⟩
      | .ok op, h =>
        obtain ⟨how, w₂, hw, hr, rfl⟩ := run_finish_iff.mp h
        exact .inr ⟨op, w₁, how, w₂, rfl, hw, hr, rfl⟩
  · rintro (⟨e, hd, rfl⟩ | ⟨op, w₁, how, w₂, hd, hw, hr, rfl⟩)
    · rw [Program.run_ask_of_answered _ hd]
      unfold ofRefusedDeletion
      dsimp only
      split <;> rfl
    · refine (Program.run_ask_of_answered _ hd).trans ?_
      exact run_finish_iff.mpr ⟨how, w₂, hw, hr, rfl⟩

theorem isEmpty_single (project zone name : String) : (single project zone name).isEmpty = false :=
  rfl

theorem delete_eq_seeking :
    delete limits name spec secret =
      seeking .delete limits.pages name spec secret fun project =>
        removing limits ⟨project, spec.zone, name⟩ := rfl

/-- **The runs of a deletion.** -/
theorem run_delete_iff :
    b.run cancelAt (delete limits name spec secret) w = .answered r w' ↔
      ∃ w₁, DeleteEnds b cancelAt limits name spec secret w r w₁ ∧
        w' = w₁.measure (.finished .delete (failure? r)) := by
  unfold Backend.run
  rw [delete_eq_seeking, seeking, run_counted_iff]
  refine exists_congr fun w₁ => and_congr_left fun _ => ?_
  constructor
  · intro h
    rcases Program.run_bindOk_eq_answered.mp h with ⟨e, rfl, hf⟩ | ⟨project, w₂, hen, h⟩
    · exact .outside hf
    · have hen := run_enter_eq_ok.mp hen
      rcases Program.run_bindOk_eq_answered.mp h with ⟨e, rfl, hf⟩ | ⟨found, w₃, hs, h⟩
      · exact .unsearched hen hf
      · rcases located_or_missing hs with ⟨rfl, earlier, last, hlen, hloc⟩ | ⟨rfl, -⟩
        · rcases (run_removing_iff (isEmpty_single _ _ _)).mp h with
            ⟨e, hd, hr⟩ | ⟨op, w₄, how, w₅, hd, hw, hr, rfl⟩
          · exact .refused hen hloc hlen hd hr
          · exact .waited hen hloc hlen hd hw hr
        · cases h
          exact .missing hen hs
  · intro h
    cases h with
    | outside h => exact Program.run_bindOk_of_error _ h
    | unsearched hen hs =>
      rw [Program.run_bindOk_of_ok _ (run_enter_eq_ok.mpr hen)]
      exact Program.run_bindOk_of_error _ hs
    | missing hen hs =>
      rw [Program.run_bindOk_of_ok _ (run_enter_eq_ok.mpr hen), Program.run_bindOk_of_ok _ hs]
      rfl
    | refused hen hloc hlen hd hr =>
      rw [Program.run_bindOk_of_ok _ (run_enter_eq_ok.mpr hen),
        Program.run_bindOk_of_ok _ (hloc.run_discover hlen)]
      exact (run_removing_iff (isEmpty_single _ _ _)).mpr (.inl ⟨_, hd, hr⟩)
    | waited hen hloc hlen hd hw hr =>
      rw [Program.run_bindOk_of_ok _ (run_enter_eq_ok.mpr hen),
        Program.run_bindOk_of_ok _ (hloc.run_discover hlen)]
      exact (run_removing_iff (isEmpty_single _ _ _)).mpr (.inr ⟨_, _, _, _, hd, hw, hr, rfl⟩)

/-! ### The parts of a way -/

variable {P : Request → Prop} {project zone : String} {token : Option String}
  {earlier : List InstanceList} {last : InstanceList} {o : Awaited} {cfg : PollConfig}
  {deadline planned : Nat} {how : Waited (Except ServiceError Operation)}

theorem Entered.leads (h : Entered b cancelAt secret w project w') :
    Program.Leads (b.handler cancelAt) (Ask.Calls P) w w' :=
  .one (calls_of_request?_eq_none rfl) h.connected

theorem Walked.leads (hP : ∀ token, P (.list project zone token))
    (hw : Walked b cancelAt project zone token w earlier last w') :
    Program.Leads (b.handler cancelAt) (Ask.Calls P) w w' := by
  induction hw with
  | last hl => exact .one (calls_of_request?_eq_some rfl (hP _)) hl
  | more hl ht hw ih => exact .trans (.one (calls_of_request?_eq_some rfl (hP _)) hl) ih

theorem Looked.leads (hP : P (.operation o.project o.zone o.name))
    (h : Looked b cancelAt o cfg deadline planned w how w') :
    Program.Leads (b.handler cancelAt) (Ask.Calls P) w w' := by
  have hlook : (Ask.bounded (.operation o.project o.zone o.name) deadline).Calls P :=
    calls_of_request?_eq_some rfl hP
  -- between the sleep and the look, the look is counted
  have hcount : ∀ w : World σ,
      Program.Leads (b.handler cancelAt) (Ask.Calls P) w (w.measure .poll) :=
    fun w => .one (q := .count .poll) (calls_of_request?_eq_none rfl) rfl
  induction h with
  | cancelledAsleep hs => exact .one (calls_of_request?_eq_none rfl) hs
  | lateAsleep hs => exact .one (calls_of_request?_eq_none rfl) hs
  | last hs hl he =>
    exact .trans (.one (calls_of_request?_eq_none rfl) hs) (.trans (hcount _) (.one hlook hl))
  | more hs hl hd hr ih =>
    exact .trans (.one (calls_of_request?_eq_none rfl) hs)
      (.trans (hcount _) (.trans (.one hlook hl) ih))

end GceMachines.Lifecycle
