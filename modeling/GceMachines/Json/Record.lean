import GceMachines.Json.Format

/-!
# Records

A record is an object with known members. One list of fields says both how a record is written
and how it is read. Reading starts from a blank record and lets each member that has a field fill
it; members without a field are passed over. A record may also be given as a list that holds the
values of its fields in order.

* `Field`: one member: its name, whether it may be missing, how it is written and read.
* `Record.format`: the format that a list of fields gives.
* `Record.looseFormat`: the one in which members may be repeated.
-/

namespace GceMachines.Json

/-- Where a field may be left out. -/
inductive Presence
  /-- In an object and at the end of a list. -/
  | optional
  /-- In an object only. -/
  | optionalMember
  /-- Nowhere. -/
  | required
  deriving DecidableEq, Repr

/-- **A field of a record.** -/
structure Field (ρ : Type) where
  name : String
  presence : Presence
  /-- The value written, and nothing where the member is left out. -/
  write : ρ → Option Json
  /-- Fills the field of a record from a document. -/
  read : (room : Nat) → Document → ρ → Except Fault ρ

namespace Field

variable {ρ α : Type}

/-- A field that is left out when its value is one to hide. -/
def omitting (hide : α → Bool) (name : String) (f : Format α) (get : ρ → α) (set : ρ → α → ρ) :
    Field ρ where
  name
  presence := .optional
  write r := if hide (get r) then none else some (f.write (get r))
  read room d r := (f.read room d).map (set r)

/-- A field that is always written. -/
def always : String → Format α → (ρ → α) → (ρ → α → ρ) → Field ρ := omitting fun _ => false

/-- A field that is left out when it has no value. -/
def ifAny (name : String) (f : Format α) : (ρ → Option α) → (ρ → Option α → ρ) → Field ρ :=
  omitting Option.isNone name f.option

/-- A text that is left out when it is empty. -/
def ifText (name : String) : (ρ → String) → (ρ → String → ρ) → Field ρ :=
  omitting String.isEmpty name .string

/-- A list that is left out when it is empty. -/
def ifItems (name : String) (f : Format α) : (ρ → List α) → (ρ → List α → ρ) → Field ρ :=
  omitting List.isEmpty name f.list

/-- A map that is left out when it is empty. -/
def ifEntries (name : String) (f : Format α) :
    (ρ → SortedMap String α) → (ρ → SortedMap String α → ρ) → Field ρ :=
  omitting SortedMap.isEmpty name f.map

/-- A field that must not be missing. -/
def needed (f : Field ρ) : Field ρ := { f with presence := .required }

/-- A field that a list must not leave out. -/
def neededInList (f : Field ρ) : Field ρ := { f with presence := .optionalMember }

end Field

/-- **A record**: what messages call it, its blank value, and its fields in order. -/
structure Record (ρ : Type) where
  title : String
  blank : ρ
  fields : List (Field ρ)

namespace Record

variable {ρ : Type}

/-- The members that a record is written with. -/
def write (r : Record ρ) (v : ρ) : Json :=
  .object (r.fields.filterMap fun f => (f.write v).map fun j => (f.name, j))

/-- The field of a name. -/
def field? (r : Record ρ) (name : String) : Option (Field ρ) := r.fields.find? (·.name = name)

/-- Members in order, filling a record; also the names of the fields met. -/
def readMembers (r : Record ρ) (room : Nat) : Members → (met : List String) → ρ →
    Except Fault (List String × ρ)
  | .close how, met, v => how.ending.map fun _ => (met, v)
  | .noKey _, _, _ => .error .keyMustBeString
  | .member k d rest, met, v =>
    k.value.bind fun k =>
      match r.field? k with
      | none => d.skip.bind fun _ => readMembers r room rest met v
      | some f =>
        if k ∈ met then .error (.duplicateField k)
        else (f.read room d v).bind fun v => readMembers r room rest (k :: met) v

/-- The first field that is missing without leave. -/
def missing? (r : Record ρ) (met : List String) : Option (Field ρ) :=
  r.fields.find? fun f => f.presence = .required && f.name ∉ met

/-- What messages say a list should hold. -/
def listTitle (r : Record ρ) : String :=
  let n := r.fields.length
  r.title ++ " with " ++ toString n ++ (if n = 1 then " element" else " elements")

/-- Items in order, filling the fields in order; `n` fields are filled already. -/
def readItems (r : Record ρ) (room : Nat) : (n : Nat) → List (Field ρ) → Items → ρ →
    Except Fault ρ
  | _, [], is, v => is.surplus.map fun _ => v
  | n, f :: fs, .close how, v => how.ending.bind fun _ =>
    if f.presence = .optional then readItems r room (n + 1) fs (.close how) v
    else .error (.invalidLength n r.listTitle)
  | n, f :: fs, .item d rest, v =>
    (f.read room d v).bind fun v => readItems r room (n + 1) fs rest v

/-- Reads a record from an object or from a list. -/
def read (r : Record ρ) (room : Nat) : Document → Except Fault ρ
  | .object ms => (Format.enter room).bind fun room =>
    (readMembers r room ms [] r.blank).bind fun (met, v) =>
      match r.missing? met with
      | some f => .error (.missingField f.name)
      | none => .ok v
  | .array is => (Format.enter room).bind fun room => readItems r room 0 r.fields is r.blank
  | d => .error (d.mismatch r.title)

/-- **The format of a record.** -/
def format (r : Record ρ) : Format ρ := ⟨r.write, r.read⟩

/-! ### Records of which the last member counts -/

/-- Members in order, filling a record; of several with one name the last counts. -/
def readLast (r : Record ρ) (room : Nat) : Members → ρ → Except Fault ρ
  | .close how, v => how.ending.map fun _ => v
  | .noKey _, _ => .error .keyMustBeString
  | .member k d rest, v =>
    k.value.bind fun k =>
      match r.field? k with
      | none => d.skip.bind fun _ => readLast r room rest v
      | some f => (f.read room d v).bind fun v => readLast r room rest v

/-- **The format of a record** that is given as an object only, of which no member has to be there
and the last of several with one name counts. -/
def looseFormat (r : Record ρ) : Format ρ where
  write := r.write
  read room
    | .object ms => (Format.enter room).bind fun room => readLast r room ms r.blank
    | d => .error (d.mismatch r.title)

end Record

end GceMachines.Json
