import Mathlib.Logic.Relation
import GceMachines.Proofs.Json.Grammar

/-!
# Edits of documents

The members of a record may be permuted, and members that the record does not know may be put in,
wherever a record stands in a document. Edits change which tokens stand where, and not how they are
written, so what is edited has a text if and only if the document had one.

* `Shape`: where the records of a document stand, and which members they know.
* `Edit`: one edit of a document of a shape.
* `Edit.exists_spelt`, `Edit.exists_text`: what is edited has a text again.
-/

namespace GceMachines.Json

/-! ### Edits -/

/-- **Where records stand in a document**, and which members they know. -/
inductive Shape
  /-- There is no record inside. -/
  | plain
  | list (item : Shape)
  | record (fields : List (String × Shape))

/-- The items of a list that is closed. -/
def Items.ofList : List Document → Items
  | [] => .close .closed
  | d :: ds => .item d (Items.ofList ds)

/-- The members of an object that is closed. -/
def Members.ofList : List (Token String × Document) → Members
  | [] => .close .closed
  | (k, d) :: ms => .member k d (Members.ofList ms)

/-- **One edit** of a document of a shape. -/
inductive Edit : Shape → Document → Document → Prop
  /-- The members of a record are permuted. -/
  | permute {fields : List (String × Shape)} {ms ms' : List (Token String × Document)}
    (h : ms.Perm ms') :
    Edit (.record fields) (.object (.ofList ms)) (.object (.ofList ms'))
  /-- A member that is no field of the record is put in, with any value. -/
  | insert {fields : List (String × Shape)} {before after : List (Token String × Document)}
    {k : Token String} {name : String} {d : Document} {key text : List UInt8}
    (hk : IsString key k) (hname : k.value = .ok name) (hnew : name ∉ fields.map Prod.fst)
    (hd : d.Spelt text) :
    Edit (.record fields) (.object (.ofList (before ++ after)))
      (.object (.ofList (before ++ (k, d) :: after)))
  /-- The value of a field is edited. -/
  | member {fields : List (String × Shape)} {before after : List (Token String × Document)}
    {k : Token String} {name : String} {s : Shape} {d d' : Document} (hname : k.value = .ok name)
    (hs : (name, s) ∈ fields) (h : Edit s d d') :
    Edit (.record fields) (.object (.ofList (before ++ (k, d) :: after)))
      (.object (.ofList (before ++ (k, d') :: after)))
  /-- The value of a field is edited in a record that is given as a list. -/
  | position {fields : List (String × Shape)} {before after : List Document} {name : String}
    {s : Shape} {d d' : Document} (hs : fields[before.length]? = some (name, s))
    (h : Edit s d d') :
    Edit (.record fields) (.array (.ofList (before ++ d :: after)))
      (.array (.ofList (before ++ d' :: after)))
  /-- An item of a list is edited. -/
  | item {s : Shape} {before after : List Document} {d d' : Document} (h : Edit s d d') :
    Edit (.list s) (.array (.ofList (before ++ d :: after)))
      (.array (.ofList (before ++ d' :: after)))

variable {s : Shape} {d d' : Document}

theorem Edit.ne_null (h : Edit s d d') : d ≠ .null ∧ d' ≠ .null := by
  cases h <;> exact ⟨nofun, nofun⟩

/-! ### Texts -/

theorem Items.exists_spelt_item {is : Items} {first : Bool} :
    (∃ text, (Items.item d is).Spelt first text) ↔
      (∃ text, d.Spelt text) ∧ ∃ text, is.Spelt false text := by
  constructor
  · rintro ⟨_, h⟩
    cases h with
    | item hd h => exact ⟨⟨_, hd⟩, _, h⟩
    | comma _ h =>
      cases h with
      | item hd h => exact ⟨⟨_, hd⟩, _, h⟩
  · rintro ⟨⟨_, hd⟩, _, h⟩
    cases first with
    | true => exact ⟨_, .item hd h⟩
    | false => exact ⟨_, .comma blank_nil (.item hd h)⟩

theorem Items.exists_spelt {ds : List Document} (first : Bool) :
    (∃ text, (Items.ofList ds).Spelt first text) ↔ ∀ d ∈ ds, ∃ text, d.Spelt text := by
  induction ds generalizing first with
  | nil => exact iff_of_true ⟨_, .close blank_nil⟩ (List.forall_mem_nil _)
  | cons d ds ih => rw [Items.ofList, exists_spelt_item, List.forall_mem_cons, ih]

theorem Members.exists_spelt_member {k : Token String} {ms : Members} {first : Bool} :
    (∃ text, (Members.member k d ms).Spelt first text) ↔
      ((∃ key, IsString key k) ∧ ∃ text, d.Spelt text) ∧ ∃ text, ms.Spelt false text := by
  constructor
  · rintro ⟨_, h⟩
    cases h with
    | member _ hk _ hd h => exact ⟨⟨⟨_, hk⟩, _, hd⟩, _, h⟩
    | comma _ h =>
      cases h with
      | member _ hk _ hd h => exact ⟨⟨⟨_, hk⟩, _, hd⟩, _, h⟩
  · rintro ⟨⟨⟨_, hk⟩, _, hd⟩, _, h⟩
    cases first with
    | true => exact ⟨_, .member blank_nil hk blank_nil hd h⟩
    | false => exact ⟨_, .comma blank_nil (.member blank_nil hk blank_nil hd h)⟩

theorem Members.exists_spelt {ms : List (Token String × Document)} (first : Bool) :
    (∃ text, (Members.ofList ms).Spelt first text) ↔
      ∀ m ∈ ms, (∃ key, IsString key m.1) ∧ ∃ text, m.2.Spelt text := by
  induction ms generalizing first with
  | nil => exact iff_of_true ⟨_, .close blank_nil⟩ (List.forall_mem_nil _)
  | cons m ms ih => rw [Members.ofList, exists_spelt_member, List.forall_mem_cons, ih]

theorem Document.exists_spelt_array {is : Items} :
    (∃ text, (Document.array is).Spelt text) ↔ ∃ text, is.Spelt true text := by
  constructor
  · rintro ⟨_, h⟩
    cases h with
    | scalar _ h => cases h
    | array _ h => exact ⟨_, h⟩
  · rintro ⟨_, h⟩
    exact ⟨_, .array blank_nil h⟩

theorem Document.exists_spelt_object {ms : Members} :
    (∃ text, (Document.object ms).Spelt text) ↔ ∃ text, ms.Spelt true text := by
  constructor
  · rintro ⟨_, h⟩
    cases h with
    | scalar _ h => cases h
    | object _ h => exact ⟨_, h⟩
  · rintro ⟨_, h⟩
    exact ⟨_, .object blank_nil h⟩

/-- **What is edited has a text** if and only if the document did. -/
theorem Edit.exists_spelt (h : Edit s d d') :
    (∃ text, d.Spelt text) ↔ ∃ text, d'.Spelt text := by
  induction h with
  | permute h =>
    simp only [Document.exists_spelt_object, Members.exists_spelt, h.mem_iff]
  | insert hk _ _ hd =>
    simp only [Document.exists_spelt_object, Members.exists_spelt, List.forall_mem_append,
      List.forall_mem_cons]
    exact and_congr_right fun _ => (and_iff_right ⟨⟨_, hk⟩, _, hd⟩).symm
  | member _ _ _ ih =>
    simp only [Document.exists_spelt_object, Members.exists_spelt, List.forall_mem_append,
      List.forall_mem_cons, ih]
  | position _ _ ih | item _ ih =>
    simp only [Document.exists_spelt_array, Items.exists_spelt, List.forall_mem_append,
      List.forall_mem_cons, ih]

theorem Edit.exists_text {text : List UInt8} (h : d.Text text)
    (hedits : Relation.ReflTransGen (Edit s) d d') : ∃ text', d'.Text text' := by
  obtain ⟨front, -, -, hfront, -⟩ := h
  have hspelt : ∃ text', d'.Spelt text' := by
    induction hedits with
    | refl => exact ⟨front, hfront⟩
    | tail _ hstep ih => exact hstep.exists_spelt.mp ih
  obtain ⟨text', htext'⟩ := hspelt
  exact ⟨text', text', [], (List.append_nil _).symm, htext', blank_nil⟩

end GceMachines.Json
