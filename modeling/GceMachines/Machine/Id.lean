import GceMachines.Text.Split
import GceMachines.Json.Record
import GceMachines.Machine.Error

/-!
# Machine ids

A machine is named by its project, its zone and its own name. Its id is the text
`gce:///<project>/<zone>/<name>`. A machine without a name has not been created, and its id is the
empty text. An id is read only if it has exactly these three parts, none of them empty.

* `MachineId.text`: the id, also what is shown of a machine.
* `MachineId.parse?`: the machine of an id.
* `MachineId.textOf`, `MachineId.partsOf`, `MachineId.ofText`: the same by the parts, and with the
  failure that tells an id which cannot be read.
* The order on machines compares projects, then zones, then names.
-/

namespace GceMachines

/-- **What names a machine.** -/
structure MachineId where
  project : String
  zone : String
  name : String
  deriving DecidableEq, Repr

namespace MachineId

/-- What every id starts with, before the slash of its first part. -/
def scheme : String := "gce://"

/-- **The id of a machine**, empty for a machine without a name. -/
def text (m : MachineId) : String :=
  if m.name.isEmpty then ""
  else scheme ++ "/" ++ m.project ++ "/" ++ m.zone ++ "/" ++ m.name

/-- **The machine of an id**, if the id has three parts, none of them empty. -/
def parse? (id : String) : Option MachineId := do
  let rest ← Text.dropBeginning? (scheme ++ "/") id
  match Text.splitOn '/' rest with
  | [project, zone, name] =>
    if project.isEmpty || zone.isEmpty || name.isEmpty then none else some ⟨project, zone, name⟩
  | _ => none

instance : ToString MachineId := ⟨text⟩

/-- The id of the machine with these parts. -/
def textOf (project zone name : String) : String := text ⟨project, zone, name⟩

/-- **The parts of an id**: project, zone and name. An id without them is told in the failure. -/
def partsOf (id : String) : Except MachineError (String × String × String) :=
  match parse? id with
  | some m => .ok (m.project, m.zone, m.name)
  | none => .error (.malformedIdentifier id)

/-- The machine of an id, with the same failure. -/
def ofText (id : String) : Except MachineError MachineId :=
  (partsOf id).map fun (project, zone, name) => ⟨project, zone, name⟩

/-- The path of a machine inside the service. -/
def path (m : MachineId) : String :=
  "projects/" ++ m.project ++ "/zones/" ++ m.zone ++ "/instances/" ++ m.name

/-- Machines as JSON. -/
def record : Json.Record MachineId where
  title := "struct MachineId"
  blank := ⟨"", "", ""⟩
  fields := [
    (.always "project" .string project fun r v => { r with project := v } : Json.Field _).needed,
    (.always "zone" .string zone fun r v => { r with zone := v } : Json.Field _).needed,
    (.always "name" .string name fun r v => { r with name := v } : Json.Field _).needed]

/-- The order by project, then zone, then name. -/
def Before (a b : MachineId) : Prop :=
  a.project < b.project ∨ a.project = b.project ∧
    (a.zone < b.zone ∨ a.zone = b.zone ∧ a.name < b.name)

instance (a b : MachineId) : Decidable (Before a b) := by
  unfold Before
  infer_instance

instance : KeyOrder MachineId where
  lt := Before
  decLt a b := inferInstanceAs (Decidable (Before a b))
  irrefl a h := by
    rcases h with h | ⟨_, h | ⟨_, h⟩⟩ <;> exact String.lt_irrefl _ h
  trans := by
    intro a b c h h'
    rcases h with h | ⟨e, h⟩
    · rcases h' with h' | ⟨e', _⟩
      · exact .inl (String.lt_trans h h')
      · exact .inl (e' ▸ h)
    · rcases h' with h' | ⟨e', h'⟩
      · exact .inl (e ▸ h')
      · refine .inr ⟨e.trans e', ?_⟩
        rcases h with h | ⟨z, h⟩
        · rcases h' with h' | ⟨z', _⟩
          · exact .inl (String.lt_trans h h')
          · exact .inl (z' ▸ h)
        · rcases h' with h' | ⟨z', h'⟩
          · exact .inl (z ▸ h')
          · exact .inr ⟨z.trans z', String.lt_trans h h'⟩
  connected := by
    intro a b h h'
    have total {s t : String} (h : ¬ s < t) (h' : ¬ t < s) : s = t :=
      String.le_antisymm (String.not_lt.1 h') (String.not_lt.1 h)
    have hp : a.project = b.project := total (fun e => h (.inl e)) (fun e => h' (.inl e))
    have hz : a.zone = b.zone :=
      total (fun e => h (.inr ⟨hp, .inl e⟩)) (fun e => h' (.inr ⟨hp.symm, .inl e⟩))
    have hn : a.name = b.name :=
      total (fun e => h (.inr ⟨hp, .inr ⟨hz, e⟩⟩)) (fun e => h' (.inr ⟨hp.symm, .inr ⟨hz.symm, e⟩⟩))
    cases a; cases b; simp_all

end MachineId

end GceMachines
