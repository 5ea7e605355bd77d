import GceMachines.Compute.Remote
import GceMachines.Proofs.Lifecycle.Calls
import GceMachines.Proofs.Machine.Id
import GceMachines.Proofs.Url.Append

/-!
# Where calls go

A call for a machine goes to the address of the service, extended by the project, the zone and the
name. It reaches the machine that it is for exactly if these three are plain: a name that is one or
two points, or that holds a tab or a line end, is not kept, and the call goes to another machine or
to all of them.

* `MachineId.IsPlain`: the machines that calls reach.
* `Access.targets_exact`: where the calls for a machine go.
* `Access.twoPoints_targets_collection`: a machine that is not reached.
-/

namespace GceMachines

open Url (IsPlain Leading Settled)

/-- **The machines that calls reach.** -/
structure MachineId.IsPlain (m : MachineId) : Prop where
  project : Url.IsPlain m.project
  zone : Url.IsPlain m.zone
  name : Url.IsPlain m.name

/-- A success is found by evaluation, whether or not failures can be compared. -/
theorem eq_ok_of_toOption {ε α : Type} {x : Except ε α} {v : α} (h : x.toOption = some v) :
    x = .ok v := by
  cases x with
  | error e => cases h
  | ok v => exact congrArg _ (Option.some.inj h)

namespace Access

variable {endpoint token : String} {a : Access} {r r' : Request}

/-! ### Accesses -/

theorem ofEndpoint_eq_ok (h : ofEndpoint endpoint token = .ok a) :
    Url.parse endpoint = .ok a.base ∧ a.base.cannotBeABase = false ∧ a.token = token := by
  unfold ofEndpoint at h
  split at h
  · cases h
  · next base hbase =>
    split at h
    · cases h
    · next hcan =>
      cases h
      exact ⟨hbase, (Bool.not_eq_true _).mp hcan, rfl⟩

theorem exists_segments (h : ofEndpoint endpoint token = .ok a) :
    ∃ ss, a.base.path = .segments ss ∧ Settled a.base.scheme ss := by
  obtain ⟨hbase, hcan, -⟩ := ofEndpoint_eq_ok h
  cases hp : a.base.path with
  | segments ss => exact ⟨ss, rfl, Url.settled_of_parse hbase hp⟩
  | plain s => simp [Url.cannotBeABase, hp] at hcan

theorem leading_projects (scheme : String) : Leading scheme "projects" := by
  refine ⟨by decide, by decide, ?_⟩
  unfold Url.segmentText Url.percentEncode
  rw [Utf8.encode_eq_flatMap]
  cases Url.isWeb scheme <;> decide

/-! ### Targets -/

/-- What a call adds to the address behind the first segment. -/
def names (r : Request) : List String := (segments r).tail

theorem segments_eq_cons (r : Request) : segments r = "projects" :: names r := by
  cases r <;> rfl

theorem url_eq_append (a : Access) (r : Request) :
    ∃ q, a.url r = { a.base.append (segments r) with query := q } := by
  cases r with
  | list project zone page =>
    cases page with
    | none => exact ⟨_, rfl⟩
    | some t => exact ⟨_, rfl⟩
  | _ => exact ⟨_, rfl⟩

/-- **Calls with the same target** name the same things, if what they name is plain. -/
theorem segments_eq_of_target_eq (h : ofEndpoint endpoint token = .ok a)
    (hr : ∀ n ∈ names r, IsPlain n) (hr' : ∀ n ∈ names r', IsPlain n)
    (ht : (a.url r).target = (a.url r').target) : segments r = segments r' := by
  obtain ⟨ss, hp, hs⟩ := exists_segments h
  obtain ⟨q, hq⟩ := url_eq_append a r
  obtain ⟨q', hq'⟩ := url_eq_append a r'
  rw [hq, hq', segments_eq_cons, segments_eq_cons] at ht
  rw [segments_eq_cons, segments_eq_cons,
    Url.target_append_inj hs hp (leading_projects _) hr hr' ht]

theorem isPlain_names_get {m : MachineId} (h : m.IsPlain) : ∀ n ∈ names (.get m), IsPlain n := by
  simp only [names, segments, List.tail_cons, List.forall_mem_cons]
  exact ⟨h.project, by decide, h.zone, by decide, h.name, nofun⟩

theorem eq_of_segments_get_eq {m m' : MachineId} (h : segments (.get m') = segments (.get m)) :
    m' = m := by
  cases m
  cases m'
  simpa [segments] using h

theorem url_user (a : Access) (r : Request) : (a.url r).user = a.base.user := by
  obtain ⟨q, hq⟩ := url_eq_append a r
  rw [hq]
  unfold Url.append
  split <;> rfl

/-- What is sent for a call. The user that the address of the service names comes first. -/
theorem dispatch_of_message {a : Access} {r : Request} {msg : Http.Message}
    (h : a.message r = .ok msg) :
    msg.dispatch = ⟨method r, Http.uriOf (a.url r),
      (Http.userHeader? a.base).toList ++ [Http.bearer a.token], content r⟩ := by
  have huser : Http.userHeader? (a.url r) = Http.userHeader? a.base := by
    unfold Http.userHeader?
    rw [url_user]
  rw [Http.Message.dispatch_of_make h, huser]
  rfl

/-! ### Machines -/

theorem get_leadsTo_iff (h : ofEndpoint endpoint token = .ok a) {m : MachineId}
    (hm : m.Addressable) :
    a.base.LeadsTo (a.url (.get m)) ["projects", m.project, "zones", m.zone, "instances", m.name] ↔
      m.IsPlain ∧ a.base.path ≠ .segments ["", ""] := by
  obtain ⟨ss, hp, hs⟩ := exists_segments h
  have hne : ∀ t ∈ names (.get m), t ≠ "" := by
    simp only [names, segments, List.tail_cons, List.forall_mem_cons]
    exact ⟨hm.project_ne, by decide, hm.zone_ne, by decide, hm.name_ne, nofun⟩
  refine (Url.append_leadsTo_iff hs hp (leading_projects _) hne).trans (and_congr ⟨fun hall => ?_,
    isPlain_names_get⟩ ?_)
  · exact ⟨hall _ (by simp [names, segments]), hall _ (by simp [names, segments]),
      hall _ (by simp [names, segments])⟩
  · rw [hp, ne_eq, ne_eq, Url.Path.segments.injEq]

theorem text_eq_iff_target_eq (a : Access) (r r' : Request) :
    (a.url r).text = (a.url r').text ↔ (a.url r).target = (a.url r').target := by
  have htext (r : Request) : (a.url r).text =
      a.base.scheme ++ ":" ++ a.base.origin ++ (a.url r).target ++
        (a.base.fragment.map ("#" ++ ·)).getD "" := by
    obtain ⟨q, hq⟩ := url_eq_append a r
    rw [hq]
    unfold Url.append
    split <;> rfl
  rw [htext, htext, String.append_left_inj, String.append_right_inj]

/-- **Where the calls for a machine go.** The address of a call that gets or deletes a machine leads
to the machine exactly if that is plain, and behind any path but that of two empty segments. No
other call with plain names has the address of a plain machine, and describing a machine gets it. -/
theorem targets_exact (h : ofEndpoint endpoint token = .ok a) {m : MachineId}
    (hm : m.Addressable) :
    (a.base.LeadsTo (a.url (.get m))
        ["projects", m.project, "zones", m.zone, "instances", m.name] ↔
      m.IsPlain ∧ a.base.path ≠ .segments ["", ""]) ∧
    a.url (.delete m) = a.url (.get m) ∧
    (m.IsPlain → ∀ r, (∀ n ∈ segments r, IsPlain n) → (a.url r).text = (a.url (.get m)).text →
      r = .get m ∨ r = .delete m) ∧
    ∀ id secret, MachineId.parse? id = some m →
      (Lifecycle.describe id secret).Calls (· = .get m) := by
  refine ⟨get_leadsTo_iff h hm, rfl, fun hplain r hr ht => ?_, fun id secret hid => ?_⟩
  · have hsame := segments_eq_of_target_eq h (fun n hn => hr n (List.mem_of_mem_tail hn))
      (isPlain_names_get hplain) ((text_eq_iff_target_eq a r _).mp ht)
    cases r with
    | get m' => exact .inl (by rw [eq_of_segments_get_eq hsame])
    | delete m' => exact .inr (by rw [eq_of_segments_get_eq hsame])
    | insert project zone body => simp [segments] at hsame
    | list project zone page => simp [segments] at hsame
    | operation project zone name => simp [segments] at hsame
  · unfold Lifecycle.describe
    rw [hid]
    refine (Lifecycle.Calls.connect secret).bindOk fun _ =>
      ⟨Lifecycle.calls_of_request?_eq_some rfl rfl, fun r => ?_⟩
    match r with
    | .error e => trivial
    | .ok i => trivial

/-- An access to the service behind a path. -/
def behindPath : Access :=
  ⟨⟨"http", none, some (.ipv6 [0, 0, 0, 0, 0, 0, 0, 1]), some 8080, false,
    .segments ["compute", "v1", ""], none, none⟩, "t"⟩

/-- A name that has to be encoded is reached behind a path. -/
theorem spacedName_targets_exact :
    ofEndpoint "http://[::1]:8080/compute/v1/" "t" = .ok behindPath ∧
    (⟨"p", "z", "vm 1"⟩ : MachineId).Addressable ∧
    behindPath.base.LeadsTo (behindPath.url (.get ⟨"p", "z", "vm 1"⟩))
      ["projects", "p", "zones", "z", "instances", "vm 1"] := by
  have ha : ofEndpoint "http://[::1]:8080/compute/v1/" "t" = .ok behindPath :=
    eq_ok_of_toOption (by decide +kernel)
  have hm : (⟨"p", "z", "vm 1"⟩ : MachineId).Addressable := by
    constructor <;> decide
  refine ⟨ha, hm, (targets_exact ha hm).1.mpr ⟨?_, by decide⟩⟩
  constructor <;> decide

/-- **A machine that is not reached.** The call for a machine whose name is two points goes to all
machines of its zone. -/
theorem twoPoints_targets_collection :
    ∃ a, ofEndpoint "http://[::1]/" "t" = .ok a ∧
      MachineId.parse? "gce:///p/z/.." = some ⟨"p", "z", ".."⟩ ∧
      (a.url (.get ⟨"p", "z", ".."⟩)).text = "http://[::1]/projects/p/zones/z/instances" ∧
      a.url (.get ⟨"p", "z", ".."⟩) = a.url (.list "p" "z" none) := by
  refine ⟨⟨⟨"http", none, some (.ipv6 [0, 0, 0, 0, 0, 0, 0, 1]), none, false, .segments [""], none,
    none⟩, "t"⟩, eq_ok_of_toOption (by decide +kernel), by decide, by decide +kernel,
    by decide +kernel⟩

end Access

end GceMachines
