import GceMachines.Json.Format
import GceMachines.Proofs.Json.Parser
import GceMachines.Proofs.SortedMap
import GceMachines.Proofs.Text.Integer

/-!
# Formats that read back what they write

A format reads back the values that are written in a certain way if they are told apart by that
writing and there is room for their nesting. Its own way of writing should be one of them; the
numbers that travel as strings have a second one.

* `Format.ReadsBack`: a format reads the values written in a given way, at a given depth.
* `Format.RoundTrips`: the text of every value is decoded to this value.
* `decode_text`, `ReadsBack.decode`, `Faithful.roundTrips`: from documents to texts.
* `faithful_bool`, `faithful_list`, …: the plain formats.
-/

namespace GceMachines.Json.Format

variable {α : Type} {f : Format α} {depth : Nat} {json : α → Json}

/-- **A format reads back what is written in a given way**: the values written so have whole
numbers of 64 bits only, and with more than `depth` levels of nesting left each is read from its
document. -/
structure ReadsBack (f : Format α) (depth : Nat) (json : α → Json) : Prop where
  isExact : ∀ a, (json a).Exact
  read_ofJson : ∀ a room, depth < room → f.read room (Document.ofJson (json a)) = .ok a

/-- **A faithful format** reads back what it writes. -/
def Faithful (f : Format α) (depth : Nat) : Prop := f.ReadsBack depth f.write

/-- No value is written as `null`. -/
def NeverNull (json : α → Json) : Prop := ∀ a, json a ≠ .null

/-- **The text of every value is decoded to this value.** -/
def RoundTrips (f : Format α) : Prop := ∀ a, f.decode (Utf8.encode (f.encode a)) = .ok a

/-! ### From documents to texts -/

/-- **What a text is decoded to** is what is read from its document. -/
theorem decode_text {d : Document} {text : List UInt8} (h : d.Text text) :
    f.decode text = f.read depthLimit d := by
  obtain ⟨front, gap, rfl, hfront, hgap⟩ := h
  unfold Format.decode Json.decode
  rw [parse_append hfront hgap]
  have hall : gap.all isSpace = true := List.all_eq_true.mpr hgap
  dsimp only [Option.getD_some]
  cases f.read depthLimit d with
  | error _ => rfl
  | ok a => rw [Except.bind, hall]

theorem ReadsBack.decode (h : f.ReadsBack depth json) (hd : depth < depthLimit) (a : α) :
    f.decode (Utf8.encode (json a).compact) = .ok a := by
  rw [decode_text (text_compact (h.isExact a)), h.read_ofJson a depthLimit hd]

theorem Faithful.roundTrips (h : f.Faithful depth) (hd : depth < depthLimit) : f.RoundTrips :=
  fun a => ReadsBack.decode h hd a

/-! ### Scalars -/

theorem faithful_bool : bool.Faithful depth := ⟨fun _ => trivial, fun _ _ _ => rfl⟩

theorem faithful_string : string.Faithful depth := ⟨fun _ => trivial, fun _ _ _ => rfl⟩

theorem fits_int64 (n : Int64) : Number.Fits n.toInt := by
  have hlow := n.le_toInt
  have hhigh := n.toInt_lt
  exact Number.fits_iff.mpr ⟨hlow, by omega⟩

theorem fits_int32 (n : Int32) : Number.Fits n.toInt := by
  have hlow := n.le_toInt
  have hhigh := n.toInt_lt
  exact Number.fits_iff.mpr ⟨by omega, by omega⟩

theorem between {low high n : Int} (hlow : low ≤ n) (hhigh : n ≤ high) :
    (decide (low ≤ n) && decide (n ≤ high)) = true :=
  Bool.and_eq_true_iff.mpr ⟨decide_eq_true hlow, decide_eq_true hhigh⟩

theorem readInt_ofJson {low high n : Int} (hlow : low ≤ n) (hhigh : n ≤ high) (expected : String) :
    readInt low high expected (.ofJson (.int n)) = .ok n := by
  show (if (low ≤ n && n ≤ high) = true then _ else _) = _
  rw [if_pos (between hlow hhigh)]

theorem faithful_int64 : int64.Faithful depth := by
  refine ⟨fits_int64, fun n room _ => ?_⟩
  show (readInt _ _ "i64" (.ofJson (.int n.toInt))).map Int64.ofInt = _
  rw [readInt_ofJson n.minValue_le_toInt n.toInt_le]
  exact congrArg Except.ok n.ofInt_toInt

theorem faithful_int32 : int32.Faithful depth := by
  refine ⟨fits_int32, fun n room _ => ?_⟩
  show (readInt _ _ "i32" (.ofJson (.int n.toInt))).map Int32.ofInt = _
  rw [readInt_ofJson n.minValue_le_toInt n.toInt_le]
  exact congrArg Except.ok n.ofInt_toInt

theorem faithful_decimal64 : decimal64.Faithful depth := by
  refine ⟨fun _ => trivial, fun n room _ => ?_⟩
  have hread := Text.readInt_toString n.minValue_le_toInt n.toInt_le
  simp only [decimal64, Document.ofJson, readAny, Except.map, Except.bind, hread, n.ofInt_toInt]

/-- **Plain numbers are read as well** where numbers travel as strings. -/
theorem readsBack_decimal64_int : decimal64.ReadsBack depth fun n => .int n.toInt := by
  refine ⟨fits_int64, fun n room _ => ?_⟩
  show (if (Int64.minValue.toInt ≤ n.toInt && n.toInt ≤ Int64.maxValue.toInt) = true
    then _ else _) = _
  rw [if_pos (between n.minValue_le_toInt n.toInt_le)]
  exact congrArg Except.ok n.ofInt_toInt

theorem faithful_unitEnum {name : α → String} {ofName : String → Except Fault α}
    (h : ∀ a, ofName (name a) = .ok a) : (unitEnum name ofName).Faithful depth :=
  ⟨fun _ => trivial, fun a _ _ => h a⟩

/-! ### Lists and maps -/

theorem enter_of_lt {room : Nat} (h : depth + 1 < room) : enter room = .ok (room - 1) :=
  if_neg (by omega)

theorem exactItems_map (h : ∀ a, (json a).Exact) (as : List α) : ExactItems (as.map json) := by
  induction as with
  | nil => exact trivial
  | cons a as ih => exact ⟨h a, ih⟩

theorem readItems_ofJson {read : Document → Except Fault α}
    (h : ∀ a, read (.ofJson (json a)) = .ok a) (as : List α) :
    readItems read (.ofJson (as.map json)) = .ok as := by
  induction as with
  | nil => rfl
  | cons a as ih =>
    show ((read (.ofJson (json a))).bind fun a => (readItems read _).map (a :: ·)) = _
    rw [h a, ih]
    rfl

theorem faithful_list (h : f.Faithful depth) : (list f).Faithful (depth + 1) := by
  refine ⟨fun as => exactItems_map h.isExact as, fun as room hroom => ?_⟩
  show ((enter room).bind fun room => readItems (f.read room) (.ofJson (as.map f.write))) = _
  rw [enter_of_lt hroom]
  exact readItems_ofJson (fun a => h.read_ofJson a _ (by omega)) as

theorem exactMembers_map (h : ∀ a, (json a).Exact) (es : List (String × α)) :
    ExactMembers (es.map fun (k, a) => (k, json a)) := by
  induction es with
  | nil => exact trivial
  | cons e es ih => exact ⟨h e.2, ih⟩

theorem readEntries_ofJson {read : Document → Except Fault α}
    (h : ∀ a, read (.ofJson (json a)) = .ok a) (es : List (String × α)) :
    readEntries read (.ofJson (es.map fun (k, a) => (k, json a))) = .ok es := by
  induction es with
  | nil => rfl
  | cons e es ih =>
    show ((read (.ofJson (json e.2))).bind fun a =>
      (readEntries read _).map ((e.1, a) :: ·)) = _
    rw [h e.2, ih]
    rfl

theorem faithful_map (h : f.Faithful depth) : (map f).Faithful (depth + 1) := by
  refine ⟨fun m => exactMembers_map h.isExact m.entries, fun m room hroom => ?_⟩
  show ((enter room).bind fun room => (readEntries (f.read room)
    (.ofJson (m.entries.map fun (k, a) => (k, f.write a)))).map SortedMap.ofList) = _
  rw [enter_of_lt hroom]
  show (readEntries (f.read (room - 1)) _).map SortedMap.ofList = _
  rw [readEntries_ofJson fun a => h.read_ofJson a _ (by omega)]
  exact congrArg Except.ok m.ofList_entries

/-! ### Values that may be absent -/

/-- A value that may be absent, written in a given way, and absent as `null`. -/
def orNull (json : α → Json) : Option α → Json
  | some a => json a
  | none => .null

theorem option_read_ofJson {j : Json} (hj : j ≠ .null) (room : Nat) :
    (option f).read room (.ofJson j) = (f.read room (.ofJson j)).map some := by
  cases j with
  | null => exact absurd rfl hj
  | _ => rfl

theorem readsBack_option (h : f.ReadsBack depth json) (hn : NeverNull json) :
    (option f).ReadsBack depth (orNull json) := by
  constructor
  case isExact =>
    rintro (_ | a)
    · exact trivial
    · exact h.isExact a
  case read_ofJson =>
    rintro (_ | a) room hroom
    · rfl
    · show (option f).read room (.ofJson (json a)) = _
      rw [option_read_ofJson (hn a), h.read_ofJson a room hroom]
      rfl

theorem write_option (f : Format α) : (option f).write = orNull f.write := by
  funext a
  cases a <;> rfl

theorem faithful_option (h : f.Faithful depth) (hn : NeverNull f.write) :
    (option f).Faithful depth := by
  unfold Faithful
  rw [write_option]
  exact readsBack_option h hn

end GceMachines.Json.Format
