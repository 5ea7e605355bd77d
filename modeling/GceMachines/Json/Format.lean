import GceMachines.Json.Parser
import GceMachines.SortedMap
import GceMachines.Text.Integer

/-!
# Formats

A `Format` writes the values of a type as JSON and reads them back from documents. A reader goes
through its document from the front and reports the first thing that stands in its way. It is also
told how many levels of nesting are left.

* `bool`, `string`, `int64`, `int32`, `list`, `map`, `option`: the plain formats.
* `decimal64`: 64-bit numbers that travel as decimal strings.
* `unitEnum`: values without contents, each named by a word.
* `any`: JSON values of any shape.
-/

namespace GceMachines.Json

/-- **How the values of a type are written and read.** -/
structure Format (α : Type) where
  write : α → Json
  read : (room : Nat) → Document → Except Fault α

namespace Format

variable {α : Type}

/-- The text of a value. -/
def encode (f : Format α) (a : α) : String := (f.write a).compact

/-- The value of a text. -/
def decode (f : Format α) (bs : List UInt8) : Except Fault α := Json.decode f.read bs

/-- The nesting left inside a list or an object. -/
def enter (room : Nat) : Except Fault Nat := if room ≤ 1 then .error .tooDeep else .ok (room - 1)

/-- Truth values. -/
def bool : Format Bool where
  write := .bool
  read _
    | .bool b => .ok b
    | d => .error (d.mismatch "a boolean")

/-- Texts. -/
def string : Format String where
  write := .string
  read _
    | .string t => t.value
    | d => .error (d.mismatch "a string")

/-- Whole numbers between two bounds, in a message called `expected`. -/
def readInt (low high : Int) (expected : String) : Document → Except Fault Int
  | .number t => t.value.bind fun
    | .int n => if low ≤ n && n ≤ high then .ok n else .error (.outOfRange n expected)
    | .float x => .error (.invalidType (.number (.float x)) expected)
  | d => .error (d.mismatch expected)

/-- Whole numbers of 64 bits. -/
def int64 : Format Int64 where
  write n := .int n.toInt
  read _ d := (readInt Int64.minValue.toInt Int64.maxValue.toInt "i64" d).map Int64.ofInt

/-- Whole numbers of 32 bits. -/
def int32 : Format Int32 where
  write n := .int n.toInt
  read _ d := (readInt Int32.minValue.toInt Int32.maxValue.toInt "i32" d).map Int32.ofInt

/-- The items of a list, each read in the same way. -/
def readItems (read : Document → Except Fault α) : Items → Except Fault (List α)
  | .close how => how.ending.map fun _ => []
  | .item v rest => (read v).bind fun a => (readItems read rest).map (a :: ·)

/-- Lists. -/
def list (f : Format α) : Format (List α) where
  write as := .array (as.map f.write)
  read room
    | .array is => (enter room).bind fun room => readItems (f.read room) is
    | d => .error (d.mismatch "a sequence")

/-- The entries of a map, each read in the same way. -/
def readEntries (read : Document → Except Fault α) : Members → Except Fault (List (String × α))
  | .close how => how.ending.map fun _ => []
  | .noKey _ => .error .keyMustBeString
  | .member k v rest =>
    k.value.bind fun k => (read v).bind fun a => (readEntries read rest).map ((k, a) :: ·)

/-- Maps, in which the last of several entries with one key counts. -/
def map (f : Format α) : Format (SortedMap String α) where
  write m := .object (m.entries.map fun (k, a) => (k, f.write a))
  read room
    | .object ms => (enter room).bind fun room =>
      (readEntries (f.read room) ms).map SortedMap.ofList
    | d => .error (d.mismatch "a map")

/-- Values that may be absent, which `null` stands for. -/
def option (f : Format α) : Format (Option α) where
  write
    | some a => f.write a
    | none => .null
  read room
    | .null => .ok none
    | d => (f.read room d).map some

mutual

/-- A document as a value. -/
def readAny : (room : Nat) → Document → Except Fault Json
  | _, .missing f => .error f
  | _, .misspelt f => .error f
  | _, .null => .ok .null
  | _, .bool b => .ok (.bool b)
  | _, .number t => t.value.map Json.number
  | _, .string t => t.value.map Json.string
  | room, .array is => (enter room).bind fun room => (readAnyItems room is).map Json.array
  | room, .object ms => (enter room).bind fun room => (readAnyMembers room ms).map Json.object

/-- The items of a list as values. -/
def readAnyItems : (room : Nat) → Items → Except Fault (List Json)
  | _, .close how => how.ending.map fun _ => []
  | room, .item v rest =>
    (readAny room v).bind fun a => (readAnyItems room rest).map (a :: ·)

/-- The members of an object as values. -/
def readAnyMembers : (room : Nat) → Members → Except Fault (List (String × Json))
  | _, .close how => how.ending.map fun _ => []
  | _, .noKey _ => .error .keyMustBeString
  | room, .member k v rest =>
    k.value.bind fun k =>
      (readAny room v).bind fun a => (readAnyMembers room rest).map ((k, a) :: ·)

end

/-- JSON values of any shape. -/
def any : Format Json := ⟨id, readAny⟩

/-- **Numbers that travel as decimal strings**; a plain number is read as well. -/
def decimal64 : Format Int64 where
  write n := .string (toString n.toInt)
  read room d := (readAny room d).bind fun
    | .number (.int n) =>
      if Int64.minValue.toInt ≤ n && n ≤ Int64.maxValue.toInt then .ok (Int64.ofInt n)
      else .error noneFits
    | .string s =>
      match Text.readInt Int64.minValue.toInt Int64.maxValue.toInt s with
      | .ok n => .ok (Int64.ofInt n)
      | .error e => .error (.refused e.message)
    | _ => .error noneFits
where
  /-- The refusal of a value that is neither a number of 64 bits nor a string. -/
  noneFits : Fault := .refused "data did not match any variant of untagged enum Raw"

/-- A value named by a word, or by an object with the word as its one key and `null` under it. -/
def unitEnum (name : α → String) (ofName : String → Except Fault α) : Format α where
  write a := .string (name a)
  read room
    | .string t => t.value.bind ofName
    | .object ms => (enter room).bind fun _ =>
      match ms with
      | .close .closed => .error .expectedValue
      | .close _ => .error .endInValue
      | .noKey d => .error (d.mismatch "variant identifier")
      | .member k v rest =>
        (k.value.bind ofName).bind fun a =>
          match v with
          | .null =>
            match rest with
            | .close .closed => .ok a
            | .close .cut => .error .endInObject
            | _ => .error .expectedValue
          | v => .error (v.mismatch "unit")
    | .missing .endInValue => .error .endInValue
    | _ => .error .expectedValue

end Format

end GceMachines.Json
