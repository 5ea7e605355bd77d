import GceMachines.Yaml.Value

/-!
# Shapes of YAML values

A shape says which values are wanted and what they stand for. Nothing may stand for an empty list,
an empty map or a record without entries. A record passes over the entries that it has no field
for; each of its fields is named once, since a key stands in a mapping only once.

* `Shape`: how a value is read.
* `Shape.Field`, `Shape.record`: the shape of a mapping with known keys.
* `Misfit`: why a value has not the wanted shape.
-/

namespace GceMachines.Yaml

/-- **Why a value has not the wanted shape.** -/
inductive Misfit
  | wrongKind (found expected : String)
  | missingField (name : String)
  | unknownVariant (name : String) (known : List String)
  deriving DecidableEq, Repr

/-- The wording of a misfit. -/
def Misfit.message : Misfit → String
  | .wrongKind found expected => wrongKindText found expected
  | .missingField name => (Json.Fault.missingField name).message
  | .unknownVariant name known => (Json.Fault.unknownVariant name known).message

/-- **How a value is read.** -/
abbrev Shape (α : Type) : Type := Value → Except Misfit α

/-- The refusal of a value where another kind is wanted. -/
def Value.misfit {α : Type} (expected : String) (v : Value) : Except Misfit α :=
  .error (.wrongKind v.found expected)

namespace Shape

variable {α : Type}

/-- A text. -/
def text : Shape String
  | .string s => .ok s
  | v => v.misfit "a string"

/-- A truth value. -/
def bool : Shape Bool
  | .bool b => .ok b
  | v => v.misfit "a boolean"

/-- A value, or nothing. -/
def option (f : Shape α) : Shape (Option α)
  | .null => .ok none
  | v => (f v).map some

/-- A list. -/
def list (f : Shape α) : Shape (List α)
  | .sequence items => items.mapM f
  | .null => .ok []
  | v => v.misfit "a sequence"

/-- A map from texts to texts. -/
def texts : Shape (List (String × String))
  | .mapping entries => entries.mapM fun (k, v) =>
    (text k).bind fun k => (text v).map fun v => (k, v)
  | .null => .ok []
  | v => v.misfit "a map"

/-- One of some words. -/
def word (known : List String) : Shape String
  | .string s => if s ∈ known then .ok s else .error (.unknownVariant s known)
  | v => v.misfit "a Value::Tag enum"

mutual

/-- A value whose keys are all texts. -/
def json : Shape Unit
  | .sequence items => jsonItems items
  | .mapping entries => jsonEntries true entries
  | _ => .ok ()

/-- Items whose keys are all texts. -/
def jsonItems : List Value → Except Misfit Unit
  | [] => .ok ()
  | v :: vs => (json v).bind fun _ => jsonItems vs

/-- Entries whose keys are all texts. -/
def jsonEntries : (first : Bool) → List (Value × Value) → Except Misfit Unit
  | _, [] => .ok ()
  | first, (k, v) :: es =>
    let key : Except Misfit Unit := match k with
      | .string _ => .ok ()
      | k => k.misfit (if first then "a string key" else "a string")
    key.bind fun _ => (json v).bind fun _ => jsonEntries false es

end

/-! ### Records -/

/-- **A field of a record.** -/
structure Field (ρ : Type) where
  name : String
  needed : Bool
  /-- Fills the field of a record. -/
  read : Value → ρ → Except Misfit ρ

namespace Field

variable {ρ α : Type}

/-- A field that may not be missing. -/
def required (name : String) (f : Shape α) (set : ρ → α → ρ) : Field ρ :=
  ⟨name, true, fun v r => (f v).map (set r)⟩

/-- A field that may be missing. -/
def optional (name : String) (f : Shape α) (set : ρ → α → ρ) : Field ρ :=
  ⟨name, false, fun v r => (f v).map (set r)⟩

/-- A field that may be missing and may hold nothing. -/
def ifAny (name : String) (f : Shape α) (set : ρ → Option α → ρ) : Field ρ :=
  optional name f.option set

/-- A field that may be missing or hold nothing, and whose value does not matter. -/
def checked (name : String) (f : Shape α) : Field ρ := ifAny name f fun r _ => r

end Field

variable {ρ : Type}

/-- Entries in order, filling a record; also the names of the fields met. -/
def fill (fields : List (Field ρ)) : List (Value × Value) → (met : List String) → ρ →
    Except Misfit (List String × ρ)
  | [], met, r => .ok (met, r)
  | (.string k, v) :: es, met, r =>
    match fields.find? (·.name = k) with
    | none => fill fields es met r
    | some f => (f.read v r).bind fun r => fill fields es (k :: met) r
  | (k, _) :: _, _, _ => k.misfit "field identifier"

/-- **A mapping with known keys**, which messages call by a title. -/
def record (title : String) (fields : List (Field ρ)) (blank : ρ) : Shape ρ := fun v =>
  let filled (entries : List (Value × Value)) : Except Misfit ρ :=
    (fill fields entries [] blank).bind fun (met, r) =>
      match fields.find? fun f => f.needed && f.name ∉ met with
      | some f => .error (.missingField f.name)
      | none => .ok r
  match v with
  | .mapping entries => filled entries
  | .null => filled []
  | v => v.misfit ("struct " ++ title)

end Shape

end GceMachines.Yaml
