import Mathlib.Data.List.Induction
import Mathlib.Data.List.Infix
import Mathlib.Logic.Relation
import GceMachines.Lifecycle.Machines
import GceMachines.Proofs.Lifecycle.Located
import GceMachines.Proofs.Text.Substring

/-!
# What tags mean for ownership

Tags are read one after the other, and each marks the cluster, the role or nothing. What was read is
the last tag of each kind. So a list that is read behind another one counts first, and only the
order among tags of one kind matters: tags that mark nothing may stand anywhere or be left out, and
neighbours of different kinds may change places. Everything that a specification owns, and every
search for it, is decided by what was read.

* `TagKind`, `Markers.kindOf`: what a tag marks.
* `Markers.ofTags_eq`: what is read is the last tag of each kind.
* `Markers.filledFrom`, `Markers.ofTags_append`: what is read from a list behind another one.
* `Retagged`: lists of tags that differ in what does not matter.
* `MatchesAlike`, `markers_well_defined`: such lists own the same and are searched for alike.
-/

namespace GceMachines

/-- **What a tag marks**, if it marks anything. -/
inductive TagKind
  | cluster
  | role
  | plain
  deriving DecidableEq

namespace Markers

variable {tag : String} {k : TagKind} {xs ys : List String}

/-! ### One tag -/

/-- The kind of a tag. One that contains both texts marks the cluster. -/
def kindOf (tag : String) : TagKind :=
  if Text.contains tag clusterText then .cluster
  else if Text.contains tag roleText then .role
  else .plain

theorem kindOf_eq_cluster_iff : kindOf tag = .cluster ↔ clusterText.toList <:+: tag.toList := by
  rw [← Text.contains_iff]
  unfold kindOf
  split
  · next h => exact iff_of_true rfl h
  · next h => exact iff_of_false (by split <;> nofun) h

theorem kindOf_eq_role_iff : kindOf tag = .role ↔
    roleText.toList <:+: tag.toList ∧ ¬ clusterText.toList <:+: tag.toList := by
  rw [← Text.contains_iff, ← Text.contains_iff]
  unfold kindOf
  split
  · next h => exact iff_of_false nofun fun hr => hr.2 h
  · next h =>
    split
    · next hr => exact iff_of_true rfl ⟨hr, h⟩
    · next hr => exact iff_of_false nofun fun hr' => hr hr'.1

theorem see_eq (m : Markers) (tag : String) : m.see tag =
    match kindOf tag with
    | .cluster => { m with cluster := some tag }
    | .role => { m with role := some tag }
    | .plain => m := by
  unfold see kindOf
  split
  · rfl
  · split <;> rfl

/-! ### All tags -/

/-- **The last tag of a kind.** -/
def last? (k : TagKind) (tags : List String) : Option String :=
  (tags.filter fun tag => kindOf tag = k).getLast?

theorem last?_append : last? k (xs ++ ys) = (last? k ys).or (last? k xs) := by
  unfold last?
  rw [List.filter_append, List.getLast?_append]

theorem last?_single : last? k [tag] = if kindOf tag = k then some tag else none := by
  unfold last?
  by_cases h : kindOf tag = k <;> simp [h]

/-- **What is read from tags** is the last one of each kind. -/
theorem ofTags_eq (tags : List String) : ofTags tags = ⟨last? .cluster tags, last? .role tags⟩ := by
  -- the tag read last is the last of the list
  induction tags using List.reverseRecOn with
  | nil => rfl
  | append_singleton tags tag ih =>
    have hread : ofTags (tags ++ [tag]) = (ofTags tags).see tag := List.foldl_append
    rw [hread, ih, see_eq, last?_append, last?_append, last?_single, last?_single]
    cases kindOf tag <;> rfl

/-- Markers, with those that are missing taken from earlier ones. -/
def filledFrom (m earlier : Markers) : Markers :=
  ⟨m.cluster.or earlier.cluster, m.role.or earlier.role⟩

/-- **A list behind another one** counts first. -/
theorem ofTags_append (xs ys : List String) :
    ofTags (xs ++ ys) = (ofTags ys).filledFrom (ofTags xs) := by
  rw [ofTags_eq, ofTags_eq, ofTags_eq, last?_append, last?_append]
  rfl

end Markers

/-! ### What does not matter -/

open Markers (kindOf)

variable {tags tags' : List String} {k : TagKind}

/-- **A change of tags that does not matter**: a tag that marks nothing is put in somewhere, or two
neighbours of different kinds change places. -/
inductive Retags : List String → List String → Prop
  | insert (before after : List String) {tag : String} (h : kindOf tag = .plain) :
    Retags (before ++ after) (before ++ tag :: after)
  | swap (before after : List String) {t u : String} (h : kindOf t ≠ kindOf u) :
    Retags (before ++ t :: u :: after) (before ++ u :: t :: after)

/-- **Lists of tags that differ in what does not matter**: such changes, in either direction and as
many as there may be, lead from one to the other. -/
abbrev Retagged : List String → List String → Prop := Relation.EqvGen Retags

theorem Retags.filter_eq (h : Retags tags tags') (hk : k ≠ .plain) :
    (tags.filter fun tag => kindOf tag = k) = tags'.filter fun tag => kindOf tag = k := by
  cases h with
  | @insert before after tag h =>
    have hnot : kindOf tag ≠ k := h ▸ hk.symm
    rw [List.filter_append, List.filter_append, List.filter_cons_of_neg (by simpa using hnot)]
  | @swap before after t u h =>
    simp only [List.filter_append, List.filter_cons]
    congr 1
    -- one of the neighbours is not of the kind
    by_cases ht : kindOf t = k
    · have hu : kindOf u ≠ k := fun hu => h (ht.trans hu.symm)
      simp [ht, hu]
    · simp [ht]

/-- **Lists that differ in what does not matter** are read alike. -/
theorem Retagged.ofTags_eq (h : Retagged tags tags') :
    Markers.ofTags tags = Markers.ofTags tags' := by
  induction h with
  | rel tags tags' h =>
    rw [Markers.ofTags_eq, Markers.ofTags_eq]
    unfold Markers.last?
    rw [h.filter_eq (k := .cluster) nofun, h.filter_eq (k := .role) nofun]
  | refl tags => rfl
  | symm tags tags' _ ih => exact ih.symm
  | trans _ _ _ _ _ ih ih' => exact ih.trans ih'

namespace Lifecycle

/-- **Tags that match the same instances**: the same instances are owned, also if their own tags are
changed in what does not matter, and the searches and the lifecycle calls that depend on them do the
same, whatever the service answers. -/
structure MatchesAlike (tags tags' : List String) : Prop where
  owns : ∀ name (i i' : Instance), i.name = i'.name → Retagged i.tagItems i'.tagItems →
    (Owns tags name i ↔ Owns tags' name i')
  discover : ∀ pages project zone name,
    discover pages project zone tags name = discover pages project zone tags' name
  delete : ∀ limits name (spec : ProviderSpec) secret,
    delete limits name { spec with tags := tags } secret =
      delete limits name { spec with tags := tags' } secret
  status : ∀ limits name (spec : ProviderSpec) secret,
    status limits name { spec with tags := tags } secret =
      status limits name { spec with tags := tags' } secret
  list : ∀ limits (spec : ProviderSpec) secret,
    list limits { spec with tags := tags } secret = list limits { spec with tags := tags' } secret

theorem matchesAlike_of_ofTags_eq (h : Markers.ofTags tags = Markers.ofTags tags') :
    MatchesAlike tags tags' := by
  have hd : ∀ pages project zone name, discover pages project zone tags name =
      discover pages project zone tags' name := by
    intro pages project zone name
    unfold discover
    rw [h]
  refine ⟨fun name i i' hname hi => ?_, hd, fun limits name spec secret => ?_,
    fun limits name spec secret => ?_, fun limits spec secret => ?_⟩
  · have hi := hi.ofTags_eq
    constructor
    · rintro ⟨hn, hm⟩
      exact ⟨hname ▸ hn, hi ▸ hm.trans h⟩
    · rintro ⟨hn, hm⟩
      exact ⟨hname ▸ hn, hi ▸ hm.trans h.symm⟩
  · simp only [delete, hd]
  · simp only [status, hd]
  · simp only [list, hd]

/-- **The markers among tags are well defined.** The cluster is the last tag that contains the text
for clusters, and the role the last one that contains the text for roles and not the one for
clusters. Of two lists behind each other the second one counts first. Tags that mark nothing and the
order of neighbours of different kinds change nothing about which instances are matched. -/
theorem markers_well_defined :
    (∀ tags, Markers.ofTags tags =
      ⟨(tags.filter fun t => Markers.clusterText.toList <:+: t.toList).getLast?,
        (tags.filter fun t => Markers.roleText.toList <:+: t.toList ∧
          ¬ Markers.clusterText.toList <:+: t.toList).getLast?⟩) ∧
    (∀ xs ys, Markers.ofTags (xs ++ ys) = (Markers.ofTags ys).filledFrom (Markers.ofTags xs)) ∧
    ∀ tags tags', Retagged tags tags' → MatchesAlike tags tags' := by
  refine ⟨fun tags => ?_, Markers.ofTags_append, fun tags tags' h =>
    matchesAlike_of_ofTags_eq h.ofTags_eq⟩
  rw [Markers.ofTags_eq]
  unfold Markers.last?
  simp only [Markers.kindOf_eq_cluster_iff, Markers.kindOf_eq_role_iff]

/-- A tag that marks nothing is left out, and the markers change places. -/
theorem markers_changed_places :
    Retagged ["kubernetes-io-cluster-a", "http-server", "kubernetes-io-role-node"]
        ["kubernetes-io-role-node", "kubernetes-io-cluster-a"] ∧
      MatchesAlike ["kubernetes-io-cluster-a", "http-server", "kubernetes-io-role-node"]
        ["kubernetes-io-role-node", "kubernetes-io-cluster-a"] := by
  have h : Retagged ["kubernetes-io-cluster-a", "http-server", "kubernetes-io-role-node"]
      ["kubernetes-io-role-node", "kubernetes-io-cluster-a"] :=
    .trans _ ["kubernetes-io-cluster-a", "kubernetes-io-role-node"] _
      (.symm _ _ (.rel _ _ (.insert ["kubernetes-io-cluster-a"] ["kubernetes-io-role-node"]
        (by decide))))
      (.rel _ _ (.swap [] [] (by decide)))
  exact ⟨h, markers_well_defined.2.2 _ _ h⟩

end Lifecycle

end GceMachines
