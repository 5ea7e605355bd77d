import GceMachines.Text.Split

/-!
# Ownership markers

Two of a machine's tags say who owns it: one names the cluster, one the role of the node. They are
plain tags that contain a marker text. A machine belongs to a specification when both of its
markers are present and equal to those of the specification.

* `Markers.ofTags`: the markers among tags.
* `Markers.complete?`: both markers, when both are there.
-/

namespace GceMachines

/-- The cluster tag and the role tag among the tags of a machine. -/
structure Markers where
  cluster : Option String
  role : Option String
  deriving DecidableEq, Repr

namespace Markers

/-- What a cluster tag contains. -/
def clusterText : String := "kubernetes-io-cluster-"

/-- What a role tag contains. -/
def roleText : String := "kubernetes-io-role-"

/-- No marker at all. -/
def empty : Markers := ⟨none, none⟩

/-- The markers after one more tag; a tag that contains both texts marks the cluster. -/
def see (m : Markers) (tag : String) : Markers :=
  if Text.contains tag clusterText then { m with cluster := some tag }
  else if Text.contains tag roleText then { m with role := some tag }
  else m

/-- **The markers among tags**, the last of several. -/
def ofTags (tags : List String) : Markers := tags.foldl see empty

/-- **Both markers**, cluster and role, when both are there. -/
def complete? (m : Markers) : Option (String × String) :=
  match m.cluster, m.role with
  | some c, some r => some (c, r)
  | _, _ => none

theorem ofTags_nil : ofTags [] = empty := rfl

end Markers

end GceMachines
