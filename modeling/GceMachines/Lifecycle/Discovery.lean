import GceMachines.Lifecycle.Paging
import GceMachines.Machine.Markers

/-!
# Finding machines

The machines of a specification are the instances of its zone that carry its two markers. They are
found by walking over the pages of the zone. A search for one name ends at the first instance that
it finds. A specification without both markers owns nothing, and then nothing is asked.

* `Search`: what is looked for, and `Search.wants`: which instances that is.
* `discover`: the ids of the machines found, each with its name.
-/

namespace GceMachines.Lifecycle

/-- The machines found: their names under their ids. -/
abbrev Discovered : Type := SortedMap String String

/-- What is looked for in a zone. -/
structure Search where
  project : String
  zone : String
  cluster : String
  role : String
  /-- The one name that counts, if only one does. -/
  name : Option String
  deriving DecidableEq, Repr

namespace Search

/-- Whether an instance is looked for. -/
def wants (s : Search) (i : Instance) : Bool :=
  s.name.all (· = i.name) && Markers.ofTags i.tagItems = ⟨some s.cluster, some s.role⟩

/-- The machines found, with one more. -/
def add (s : Search) (found : Discovered) (i : Instance) : Discovered :=
  found.insert (MachineId.text ⟨s.project, s.zone, i.name⟩) i.name

/-- The machines found after a page, and whether the search has come to its end with them. -/
def scan (s : Search) : Discovered → List Instance → Discovered × Bool
  | found, [] => (found, false)
  | found, i :: is =>
    if s.wants i then
      if s.name.isSome then (s.add found i, true) else scan s (s.add found i) is
    else scan s found is

/-- The walk over the pages from a token on, cut off after `allowance` pages. -/
def walk (s : Search) : (allowance : Nat) → Option String → Discovered →
    Plan (Except MachineError Discovered)
  | 0, _, _ => .unfinished
  | n + 1, token, found =>
    let cancelled : Plan (Except MachineError Discovered) :=
      Plan.fail (.cancelled ("list instances in " ++ s.zone))
    .ask (.abortable (.list s.project s.zone token)) fun
      | none => cancelled
      | some (.error e) => Plan.fail e.toMachineError
      | some (.ok page) =>
        match s.scan found page.items with
        | (found, true) => Plan.succeed found
        | (found, false) =>
          match page.next? with
          | some t => walk s n (some t) found
          | none => .ask .cancelled fun stop => if stop then cancelled else Plan.succeed found

end Search

/-- **Finds machines** by the markers among tags. -/
def discover (allowance : Nat) (project zone : String) (tags : List String)
    (name : Option String) : Plan (Except MachineError Discovered) :=
  match (Markers.ofTags tags).complete? with
  | none => Plan.succeed .empty
  | some (cluster, role) => Search.walk ⟨project, zone, cluster, role, name⟩ allowance none .empty

end GceMachines.Lifecycle
