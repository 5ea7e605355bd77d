import GceMachines.Proofs.InMemory.Listing
import GceMachines.Proofs.Lifecycle.Mutations
import GceMachines.Proofs.Machine.Secret

/-!
# Clusters do not touch each other

Specifications own machines by their markers. Whatever is done for specifications with other
markers, in whatever order, and however calls fail, time out or are cancelled in between, the
machines of a specification stay as they are: an insertion makes a machine with the markers of its
own specification under a name that was free, and a deletion takes out a machine that was seen with
the markers of its own specification.

* `Event`, `session`: lifecycle calls one after another, with failures scripted in between.
* `matched_create`, `matched_delete`, `matched_reading`: one call for other markers.
* `matched_session`: any number of them.
* `clusters_isolated`: what a specification owns and lists before and after.
-/

namespace GceMachines.InMemory

open Lifecycle

/-! ### Sessions -/

/-- A lifecycle call. -/
inductive Activity
  | create (name : String) (spec : ProviderSpec) (secret : Secret)
  | delete (name : String) (spec : ProviderSpec) (secret : Secret)
  | status (name : String) (spec : ProviderSpec) (secret : Secret)
  | list (spec : ProviderSpec) (secret : Secret)
  | describe (id : String) (secret : Secret)

/-- The tags of the specification that a call is made for. -/
def Activity.tags? : Activity → Option (List String)
  | create _ spec _ => some spec.tags
  | delete _ spec _ => some spec.tags
  | status _ spec _ => some spec.tags
  | list spec _ => some spec.tags
  | describe _ _ => none

/-- The service after a call, however it ended. -/
def Activity.perform (limits : Limits) (refusal : Option ServiceError) (cancelAt : Option Nat)
    (m : InMemory) : Activity → InMemory
  | create name spec secret =>
    (after (backend refusal) cancelAt (Lifecycle.create limits name spec secret) m).state
  | delete name spec secret =>
    (after (backend refusal) cancelAt (Lifecycle.delete limits name spec secret) m).state
  | status name spec secret =>
    (after (backend refusal) cancelAt (Lifecycle.status limits name spec secret) m).state
  | list spec secret =>
    (after (backend refusal) cancelAt (Lifecycle.list limits spec secret) m).state
  | describe id secret =>
    (after (backend refusal) cancelAt (Lifecycle.describe id secret) m).state

/-- What happens in a session. -/
inductive Event
  /-- A call is made, with its waits, with credentials that may be refused, and perhaps cancelled
  at some instant. -/
  | call (a : Activity) (limits : Limits) (refusal : Option ServiceError) (cancelAt : Option Nat)
  /-- Failures are scripted, and looks at operations are answered or not. -/
  | script (failures : ScriptedFailures) (pollsHang : Bool)

/-- The service after an event. -/
def Event.effect (m : InMemory) : Event → InMemory
  | call a limits refusal cancelAt => a.perform limits refusal cancelAt m
  | script failures pollsHang => { m with failures, pollsHang }

/-- **The service after a session.** -/
def session (m : InMemory) (events : List Event) : InMemory := events.foldl Event.effect m

/-- A call that is not made for the two markers among tags. -/
def Activity.IsForeign (tags : List String) (a : Activity) : Prop :=
  ∀ own ∈ a.tags?, (Markers.ofTags own).complete? ≠ (Markers.ofTags tags).complete?

/-- An event that has nothing to do with the two markers among tags. -/
def Event.IsForeign (tags : List String) : Event → Prop
  | call a _ _ _ => a.IsForeign tags
  | script _ _ => True

instance Activity.decidableIsForeign (tags : List String) (a : Activity) :
    Decidable (a.IsForeign tags) :=
  inferInstanceAs (Decidable (∀ own ∈ a.tags?, _))

instance Event.decidableIsForeign (tags : List String) :
    (e : Event) → Decidable (e.IsForeign tags)
  | call a _ _ _ => inferInstanceAs (Decidable (a.IsForeign tags))
  | script _ _ => inferInstanceAs (Decidable True)

/-! ### One call -/

variable {m m' : InMemory} {s : Search} {limits : Limits} {refusal : Option ServiceError}
  {cancelAt : Option Nat} {name : String} {spec : ProviderSpec} {secret : Secret}

theorem matched_congr (h : m'.instances = m.instances) : m'.matched s = m.matched s := by
  unfold matched
  rw [h]

theorem wants_eq_false {i : Instance} {tags : List String}
    (hi : Markers.ofTags i.tagItems = Markers.ofTags tags)
    (hm : Markers.ofTags tags ≠ ⟨some s.cluster, some s.role⟩) : s.wants i = false := by
  rw [← Bool.not_eq_true, Search.wants_iff, hi]
  exact fun h => hm h.2

theorem matched_insert (m : InMemory) (project zone : String) {body : Instance}
    {tags : List String} (hbody : body.tagItems = tags)
    (hm : Markers.ofTags tags ≠ ⟨some s.cluster, some s.role⟩) :
    (m.insert project zone body).2.matched s = m.matched s := by
  rcases m.insert_instances project zone body with h | ⟨hfree, h⟩
  · exact matched_congr h
  · have hnew : s.wants (created m.serial ⟨project, zone, body.name⟩ body) = false :=
      wants_eq_false (congrArg Markers.ofTags hbody) hm
    unfold matched
    rw [h]
    exact SortedMap.filter_insert (by simp [hnew]) hfree

theorem matched_delete_of_unwanted (m : InMemory) {target : MachineId} {i : Instance}
    (hi : (target, i) ∈ m.instances.entries) (hw : s.wants i = false) :
    (m.delete target).2.matched s = m.matched s := by
  rcases m.delete_instances target with h | h
  · exact matched_congr h
  · unfold matched
    rw [h]
    refine SortedMap.filter_erase fun e he hk => ?_
    obtain ⟨k, j⟩ := e
    cases hk
    rw [m.instances.sorted.unique he hi, hw, Bool.and_false]

/-- **A call that asks for no change** keeps what a search matches. -/
theorem matched_reading {α : Type} {p : Plan α} (hp : p.Calls Request.Reads) :
    (after (backend refusal) cancelAt p m).state.matched s = m.matched s :=
  matched_congr (instances_of_leads (hp.leads (World.start m)))

/-- **A creation** adds no machine with other markers than those of its specification. -/
theorem matched_create (hm : Markers.ofTags spec.tags ≠ ⟨some s.cluster, some s.role⟩) :
    (after (backend refusal) cancelAt (Lifecycle.create limits name spec secret) m).state.matched s =
      m.matched s := by
  rcases create_leads (backend refusal) cancelAt limits name spec secret (.start m) with
    hl | ⟨project, w₁, -, hl, hl'⟩
  · exact matched_congr (instances_of_leads hl)
  · have h₁ : w₁.state.instances = m.instances := instances_of_leads hl
    have h₂ := instances_of_leads hl'
    rw [state_of_call] at h₂
    rw [after, matched_congr h₂]
    have hbody : (instanceBody name project spec secret.userData).tagItems = spec.tags := rfl
    exact (matched_insert w₁.state project spec.zone hbody hm).trans (matched_congr h₁)

/-- **A deletion** takes out no machine with other markers than those of its specification. -/
theorem matched_delete (hm : Markers.ofTags spec.tags ≠ ⟨some s.cluster, some s.role⟩) :
    (after (backend refusal) cancelAt (Lifecycle.delete limits name spec secret) m).state.matched s =
      m.matched s := by
  rcases delete_leads (backend refusal) cancelAt limits name spec secret (.start m) with
    hl | ⟨project, w₁, earlier, last, w₂, -, hloc, hl, hl', hl''⟩
  · exact matched_congr (instances_of_leads hl)
  · have h₁ : w₁.state.instances = m.instances := instances_of_leads hl
    have h₂ : w₂.state.instances = w₁.state.instances := instances_of_leads hl'
    have h₃ := instances_of_leads hl''
    rw [state_of_call] at h₃
    rw [after, matched_congr h₃]
    -- the machine that was found still stands under its name
    obtain ⟨i, hi, hn, hmark⟩ := hloc.found
    have hzone := mem_of_walked hloc.walked i (List.mem_append_right _ hi)
    obtain ⟨⟨k, j⟩, hk, rfl⟩ := List.mem_map.mp hzone
    obtain ⟨hmem, hkey⟩ := List.mem_filter.mp hk
    simp only [Bool.and_eq_true, decide_eq_true_eq] at hkey
    have htarget : k = ⟨project, spec.zone, name⟩ := by
      have hkn : k.name = name := (w₁.state.named _ hmem).trans hn
      obtain ⟨p, z, n⟩ := k
      simp_all
    have hmem' : ((⟨project, spec.zone, name⟩ : MachineId), j) ∈ w₂.state.instances.entries := by
      rw [h₂, ← htarget]
      exact hmem
    have hdel := matched_delete_of_unwanted w₂.state hmem' (wants_eq_false hmark hm)
    exact hdel.trans (matched_congr (h₂.trans h₁))

/-! ### Any number of calls -/

theorem matched_effect {tags : List String}
    (ht : (Markers.ofTags tags).complete? = some (s.cluster, s.role)) {e : Event}
    (he : e.IsForeign tags) : (e.effect m).matched s = m.matched s := by
  cases e with
  | script failures pollsHang => rfl
  | call a limits refusal cancelAt =>
    have hother : ∀ own ∈ a.tags?, Markers.ofTags own ≠ ⟨some s.cluster, some s.role⟩ := by
      intro own hown hm
      exact he own hown ((Markers.complete?_eq_some.mpr hm).trans ht.symm)
    cases a with
    | create name spec secret => exact matched_create (hother spec.tags rfl)
    | delete name spec secret => exact matched_delete (hother spec.tags rfl)
    | status name spec secret => exact matched_reading (status_reads limits name spec secret)
    | list spec secret => exact matched_reading (list_reads limits spec secret)
    | describe id secret => exact matched_reading (describe_reads id secret)

/-- **A session that has nothing to do with the markers of a search** keeps what it matches. -/
theorem matched_session {tags : List String}
    (ht : (Markers.ofTags tags).complete? = some (s.cluster, s.role)) {events : List Event}
    (he : ∀ e ∈ events, e.IsForeign tags) : (session m events).matched s = m.matched s := by
  induction events generalizing m with
  | nil => rfl
  | cons e events ih =>
    have hrest := ih (m := e.effect m) fun e' h => he e' (.tail _ h)
    exact hrest.trans (matched_effect ht (he e (.head _)))

theorem found_eq_of_matched_eq {limits' : Limits} {refusal' : Option ServiceError}
    {cancelAt' : Option Nat} {cluster role : String} {found found' : Discovered}
    {w w' : World InMemory} (hc : (Markers.ofTags spec.tags).complete? = some (cluster, role))
    (hm : ∀ project, m'.matched ⟨project, spec.zone, cluster, role, none⟩ =
      m.matched ⟨project, spec.zone, cluster, role, none⟩)
    (h : (backend refusal).run cancelAt (Lifecycle.list limits spec secret) (.start m) =
      .answered (.ok found) w)
    (h' : (backend refusal').run cancelAt' (Lifecycle.list limits' spec secret) (.start m') =
      .answered (.ok found') w') : found' = found := by
  obtain ⟨project, hp, he⟩ := list_entries hc h
  obtain ⟨project', hp', he'⟩ := list_entries hc h'
  rw [hp] at hp'
  cases hp'
  refine SortedMap.eq_of_mem_iff fun e => ?_
  rw [he e, he' e]
  exact hm project ▸ Iff.rfl

/-- **Clusters are isolated from each other.** For a specification with both markers, a session of
calls for other markers, or for incomplete ones, keeps the instances that its discovery matches,
with all that they contain. Any two of its listings that succeed before and after the session find
the same, and they do succeed when nothing disturbs them. -/
theorem clusters_isolated (m : InMemory) (spec : ProviderSpec) (project cluster role : String)
    (hc : (Markers.ofTags spec.tags).complete? = some (cluster, role)) (events : List Event)
    (he : ∀ e ∈ events, e.IsForeign spec.tags) :
    (session m events).matched ⟨project, spec.zone, cluster, role, none⟩ =
      m.matched ⟨project, spec.zone, cluster, role, none⟩ ∧
    (∀ secret limits limits' refusal refusal' cancelAt cancelAt' found found' w w',
      (backend refusal).run cancelAt (Lifecycle.list limits spec secret) (.start m) =
        .answered (.ok found) w →
      (backend refusal').run cancelAt' (Lifecycle.list limits' spec secret)
        (.start (session m events)) = .answered (.ok found') w' → found' = found) ∧
    ∀ secret poll, secret.project = .ok project → m.Calm → (session m events).Calm →
      ∃ found n, ∀ pages, n ≤ pages →
        (∃ w, (backend none).run none (Lifecycle.list ⟨poll, pages⟩ spec secret) (.start m) =
          .answered (.ok found) w) ∧
        ∃ w', (backend none).run none (Lifecycle.list ⟨poll, pages⟩ spec secret)
          (.start (session m events)) = .answered (.ok found) w' := by
  have hm : ∀ project, (session m events).matched ⟨project, spec.zone, cluster, role, none⟩ =
      m.matched ⟨project, spec.zone, cluster, role, none⟩ := fun _ => matched_session hc he
  refine ⟨hm project, ?_, ?_⟩
  · intro secret limits limits' refusal refusal' cancelAt cancelAt' found found' w w' h h'
    exact found_eq_of_matched_eq hc hm h h'
  · intro secret poll hp hcalm hcalm'
    obtain ⟨found, n, hrun⟩ := exists_list_of_calm hcalm hp hc poll
    obtain ⟨found', n', hrun'⟩ := exists_list_of_calm hcalm' hp hc poll
    have hfound : found' = found := by
      obtain ⟨w, h⟩ := hrun n (Nat.le_refl n)
      obtain ⟨w', h'⟩ := hrun' n' (Nat.le_refl n')
      exact found_eq_of_matched_eq hc hm h h'
    refine ⟨found, max n n', fun pages hp => ⟨hrun pages (by omega), ?_⟩⟩
    rw [← hfound]
    exact hrun' pages (by omega)

/-! ### Two clusters in one zone -/

/-- A specification of the nodes of a cluster. -/
def nodeSpec (cluster : String) : ProviderSpec :=
  { ProviderSpec.blank with
    zone := "z"
    tags := ["kubernetes-io-cluster-" ++ cluster, "kubernetes-io-role-node"] }

/-- A secret for the project `p`. -/
def keyring : Secret := SortedMap.ofList [("credentialsConfig", []), ("projectID", [112])]

theorem project_keyring : Secret.project keyring = .ok "p" :=
  Secret.project_of_external [] (by decide +kernel) (by decide +kernel) (by decide)

/-- A zone with a machine of the cluster `a` and one of the cluster `b`. -/
def twoClusters : InMemory :=
  ((InMemory.new 1 0).addTagged "p" "z" "a" (nodeSpec "a").tags).addTagged "p" "z" "b"
    (nodeSpec "b").tags

/-- Deletes the machine of the other cluster and its own, and makes one over the other's. -/
def intrusion : List Event :=
  [.call (.delete "b" (nodeSpec "a") keyring) ⟨.standard, 3⟩ none none,
    .call (.delete "a" (nodeSpec "a") keyring) ⟨.standard, 3⟩ none none,
    .script ⟨[], [], [.api 500 ""], [], []⟩ true,
    .call (.create "b" (nodeSpec "a") keyring) ⟨.standard, 3⟩ none (some 7)]

/-- The machine of the cluster `b` outlives what the cluster `a` does. -/
theorem twoClusters_isolated :
    (Markers.ofTags (nodeSpec "b").tags).complete? =
        some ("kubernetes-io-cluster-b", "kubernetes-io-role-node") ∧
      (∀ e ∈ intrusion, e.IsForeign (nodeSpec "b").tags) ∧
      (twoClusters.matched
        ⟨"p", "z", "kubernetes-io-cluster-b", "kubernetes-io-role-node", none⟩).length = 1 ∧
      (session twoClusters intrusion).matched
          ⟨"p", "z", "kubernetes-io-cluster-b", "kubernetes-io-role-node", none⟩ =
        twoClusters.matched
          ⟨"p", "z", "kubernetes-io-cluster-b", "kubernetes-io-role-node", none⟩ :=
  ⟨by decide, by decide, by decide,
    (clusters_isolated twoClusters (nodeSpec "b") "p" _ _ (by decide) intrusion (by decide)).1⟩

end GceMachines.InMemory
