import GceMachines.Compute.Backends
import GceMachines.Proofs.Lifecycle.Endings
import GceMachines.Proofs.Lifecycle.Mutations
import GceMachines.Proofs.SortedMap

/-!
# What calls do to the service in memory

Only a change that is accepted touches the instances: an insertion puts its instance under a name
that is free, and a deletion takes out the instance of its name. Everything else, refusals and
scripted failures included, leaves the instances as they were.

* `instances_answer`: a call without a change.
* `insert_instances`, `delete_instances`: the two changes.
* `instances_of_leads`: runs without a change.
* `Surveyed`, `surveyed_of_leads`: runs that only look around.
-/

namespace GceMachines.InMemory

variable {m m' : InMemory} {project zone : String} {token : Option String} {target : MachineId}
  {body : Instance} {r : Request}

theorem instances_list (m : InMemory) (project zone : String) (token : Option String) :
    (m.list project zone token).2.instances = m.instances := by
  unfold list
  dsimp only
  cases m.failures.list with
  | cons e es => rfl
  | nil => cases offset? token <;> rfl

theorem instances_poll (m : InMemory) (name : String) :
    (m.poll name).2.instances = m.instances := by
  unfold poll
  dsimp only
  cases m.pollsHang with
  | true => rfl
  | false =>
    cases m.failures.poll with
    | cons e es => rfl
    | nil => cases m.operations.get? name <;> rfl

theorem instances_answer (hr : r.Reads) (m : InMemory) : (answer r m).2.instances = m.instances := by
  cases r with
  | insert => cases hr
  | delete => cases hr
  | get => rfl
  | list project zone token => exact instances_list m project zone token
  | operation project zone name => exact instances_poll m name

/-- **An insertion** puts its instance under a free name, or changes no instance. -/
theorem insert_instances (m : InMemory) (project zone : String) (body : Instance) :
    (m.insert project zone body).2.instances = m.instances ∨
    (∀ e ∈ m.instances.entries, e.1 ≠ ⟨project, zone, body.name⟩) ∧
      (m.insert project zone body).2.instances =
        m.instances.insert ⟨project, zone, body.name⟩
          (created m.serial ⟨project, zone, body.name⟩ body) := by
  unfold insert
  dsimp only
  cases m.failures.insert with
  | cons e es => exact .inl rfl
  | nil =>
    cases h : m.instances.contains ⟨project, zone, body.name⟩ with
    | true => exact .inl rfl
    | false =>
      rw [if_neg Bool.false_ne_true]
      dsimp only
      split
      · exact .inl rfl
      · exact .inr ⟨SortedMap.ne_of_contains_eq_false h, rfl⟩

/-- **A deletion** takes out the instance of its name, or changes no instance. -/
theorem delete_instances (m : InMemory) (target : MachineId) :
    (m.delete target).2.instances = m.instances ∨
      (m.delete target).2.instances = m.instances.erase target := by
  unfold delete
  dsimp only
  cases m.failures.delete with
  | cons e es => exact .inl rfl
  | nil =>
    cases m.instances.contains target with
    | false => exact .inl rfl
    | true =>
      rw [if_pos rfl]
      dsimp only
      split
      · exact .inl rfl
      · exact .inr rfl

theorem list_eq_ok {page : InstanceList} (h : (m.list project zone token).1 = .ok page) :
    ∃ start, offset? token = some start ∧
      page = InMemory.page m.pageSize start (m.instancesIn project zone) := by
  unfold list at h
  dsimp only at h
  cases hf : m.failures.list with
  | cons e es =>
    rw [hf] at h
    cases h
  | nil =>
    rw [hf] at h
    cases hs : offset? token with
    | none =>
      rw [hs] at h
      cases h
    | some start =>
      rw [hs] at h
      cases h
      exact ⟨start, rfl, rfl⟩

/-- **A run without a change** keeps the instances. -/
theorem keeps_instances (refusal : Option ServiceError) (is : SortedMap MachineId Instance) :
    (backend refusal).Keeps Request.Reads fun m => m.instances = is where
  connect _ _ h := h
  call _ m hr h := (instances_answer hr m).trans h
  wait _ _ h := h

variable {refusal : Option ServiceError} {cancelAt : Option Nat} {w w' : World InMemory}

theorem instances_of_leads (hl : Lifecycle.LeadsReading (backend refusal) cancelAt w w') :
    w'.state.instances = w.state.instances :=
  hl.keeps_state (keeps_instances refusal w.state.instances) rfl

theorem instances_of_run {α : Type} {p : Plan α} {a : α} (hp : p.Calls Request.Reads)
    (h : p.run ((backend refusal).handler cancelAt) w = .answered a w') :
    w'.state.instances = w.state.instances := by
  have hl : Lifecycle.LeadsReading (backend refusal) cancelAt w
      (p.run ((backend refusal).handler cancelAt) w).state := hp.leads w
  rw [h] at hl
  exact instances_of_leads hl

theorem state_of_uncalled {q : Ask} {a : q.Answer} (hq : q.request? = none)
    (h : (backend refusal).handler cancelAt q w = .answered a w') : w'.state = w.state := by
  have heffect := (backend refusal).handler_effect cancelAt q w
  rw [h] at heffect
  rcases heffect with ⟨-, hs | ⟨ms, hs⟩⟩ | ⟨secret, -, -, hs⟩ | ⟨r, hr, -⟩
  · exact hs
  · exact hs
  · exact hs
  · rw [hq] at hr
    cases hr

theorem state_of_entered {secret : Secret}
    (h : Lifecycle.Entered (backend refusal) cancelAt secret w project w') :
    w'.state = w.state :=
  state_of_uncalled rfl h.connected

theorem state_of_call (r : Request) (w : World InMemory) :
    ((backend refusal).handler cancelAt (.call r) w).state.state = (answer r w.state).2 :=
  Backend.state_seeThrough (.call r) ((backend refusal).call r) w

theorem answer_of_call {r : Request} {reply : Except ServiceError r.Reply}
    (h : (backend refusal).handler cancelAt (.call r) w = .answered reply w') :
    answer r w.state = (some reply, w'.state) := by
  have hs : ((backend refusal).handler cancelAt (.call r) w).state.state = (answer r w.state).2 :=
    state_of_call r w
  rw [h] at hs
  refine Prod.ext ?_ hs.symm
  simp only [Backend.handler, Backend.seeThrough, backend] at h
  cases ha : (answer r w.state).1 with
  | none =>
    rw [ha] at h
    cases h
  | some reply' =>
    rw [ha] at h
    cases h
    rfl

theorem insert_of_call {reply : Except ServiceError Operation}
    (h : (backend refusal).handler cancelAt (.call (.insert project zone body)) w =
      .answered reply w') : w.state.insert project zone body = (reply, w'.state) := by
  have ha := answer_of_call h
  have hreply : some (w.state.insert project zone body).1 = some reply := congrArg Prod.fst ha
  have hstate : (w.state.insert project zone body).2 = w'.state := congrArg Prod.snd ha
  exact Prod.ext (Option.some.inj hreply) hstate

theorem delete_of_call {reply : Except ServiceError Operation}
    (h : (backend refusal).handler cancelAt (.call (.delete target)) w = .answered reply w') :
    w.state.delete target = (reply, w'.state) := by
  have ha := answer_of_call h
  have hreply : some (w.state.delete target).1 = some reply := congrArg Prod.fst ha
  have hstate : (w.state.delete target).2 = w'.state := congrArg Prod.snd ha
  exact Prod.ext (Option.some.inj hreply) hstate

/-! ### Looking around -/

/-- A call that looks at instances. -/
def Surveys : Request → Prop
  | .get _ => True
  | .list _ _ _ => True
  | _ => False

/-- One service is another one that was only looked at: of the failures those of listings may have
been given out, and calls were counted. -/
def Surveyed (m m' : InMemory) : Prop :=
  ∃ counts list, m' = { m with counts, failures := { m.failures with list } }

theorem Surveyed.refl (m : InMemory) : Surveyed m m := ⟨_, _, rfl⟩

theorem surveyed_list {m₀ : InMemory} (h : Surveyed m₀ m) :
    Surveyed m₀ (m.list project zone token).2 := by
  obtain ⟨counts, fs, rfl⟩ := h
  unfold list
  dsimp only
  cases fs with
  | cons e es => exact ⟨_, _, rfl⟩
  | nil => cases offset? token <;> exact ⟨_, _, rfl⟩

theorem Surveyed.instances (h : Surveyed m m') : m'.instances = m.instances := by
  obtain ⟨_, _, rfl⟩ := h
  rfl

theorem Surveyed.operations (h : Surveyed m m') : m'.operations = m.operations := by
  obtain ⟨_, _, rfl⟩ := h
  rfl

theorem Surveyed.serial (h : Surveyed m m') : m'.serial = m.serial := by
  obtain ⟨_, _, rfl⟩ := h
  rfl

theorem Surveyed.delete_fst (h : Surveyed m m') (target : MachineId) :
    (m'.delete target).1 = (m.delete target).1 := by
  obtain ⟨counts, list, rfl⟩ := h
  unfold delete
  dsimp only
  cases m.failures.delete with
  | cons e es => rfl
  | nil => cases m.instances.contains target <;> rfl

/-- **A run that looks around** leaves everything else. -/
theorem surveyed_of_leads
    (hl : Program.Leads ((backend refusal).handler cancelAt) (Ask.Calls Surveys) w w') :
    Surveyed w.state w'.state := by
  have hkeeps : (backend refusal).Keeps Surveys (Surveyed w.state) := by
    refine ⟨fun _ _ h => h, fun r m hr h => ?_, fun _ _ h => h⟩
    cases r with
    | get target => exact h
    | list project zone token => exact surveyed_list h
    | insert => exact hr.elim
    | delete => exact hr.elim
    | operation => exact hr.elim
  exact hl.keeps_state hkeeps (.refl _)

theorem surveyed_of_located {secret : Secret} {spec : ProviderSpec} {name : String}
    {w₁ : World InMemory} {earlier : List InstanceList} {last : InstanceList}
    (hen : Lifecycle.Entered (backend refusal) cancelAt secret w project w₁)
    (hloc : Lifecycle.Located (backend refusal) cancelAt project spec.zone spec.tags name w₁ earlier
      last w') : Surveyed w.state w'.state :=
  surveyed_of_leads (hen.leads.trans (hloc.walked.leads fun _ => trivial))

end GceMachines.InMemory
