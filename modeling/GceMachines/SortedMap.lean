/-!
# Sorted maps

A map is the list of its entries in ascending order of their keys, each key once. Two maps with
the same entries are therefore equal, and a listing shows the keys in order.

* `KeyOrder`: a decidable strict total order on the keys.
* `insert`, `erase`, `get?`: the operations, on the list of entries.
* `sorted_insertEntry`: an insertion keeps the order.
-/

namespace GceMachines

/-- A decidable strict total order, by which a map sorts its keys. -/
class KeyOrder (κ : Type) extends LT κ where
  decLt : DecidableLT κ
  irrefl (a : κ) : ¬ a < a
  trans {a b c : κ} : a < b → b < c → a < c
  connected {a b : κ} : ¬ a < b → ¬ b < a → a = b

instance KeyOrder.decidableLT (κ : Type) [KeyOrder κ] : DecidableLT κ := KeyOrder.decLt

instance : KeyOrder String where
  decLt := inferInstance
  irrefl := String.lt_irrefl
  trans := String.lt_trans
  connected h h' := String.le_antisymm (String.not_lt.1 h') (String.not_lt.1 h)

/-- Entries in ascending order of their keys. -/
def Ascending {κ α : Type} [KeyOrder κ] (es : List (κ × α)) : Prop :=
  es.Pairwise fun a b => a.1 < b.1

instance Ascending.decidable {κ α : Type} [KeyOrder κ] (es : List (κ × α)) :
    Decidable (Ascending es) := by
  unfold Ascending; infer_instance

/-- **A map**: its entries, in ascending order of their keys. -/
structure SortedMap (κ α : Type) [KeyOrder κ] where
  entries : List (κ × α)
  sorted : Ascending entries

namespace SortedMap

variable {κ α β : Type} [KeyOrder κ]

instance [DecidableEq κ] [DecidableEq α] : DecidableEq (SortedMap κ α) := fun a b =>
  decidable_of_iff (a.entries = b.entries) (by cases a; cases b; simp)

@[ext] theorem ext {a b : SortedMap κ α} (h : a.entries = b.entries) : a = b := by
  cases a; cases b; simp_all

/-- No entries. -/
def empty : SortedMap κ α := ⟨[], .nil⟩

instance : Inhabited (SortedMap κ α) := ⟨empty⟩

/-- Whether there is no entry. -/
def isEmpty (m : SortedMap κ α) : Bool := m.entries.isEmpty

/-- The number of entries. -/
def size (m : SortedMap κ α) : Nat := m.entries.length

/-! ### Insertion -/

/-- An entry put into its place in a list of entries, over an entry with the same key. -/
def insertEntry (k : κ) (v : α) : List (κ × α) → List (κ × α)
  | [] => [(k, v)]
  | (k', v') :: es =>
    if k < k' then (k, v) :: (k', v') :: es
    else if k' < k then (k', v') :: insertEntry k v es
    else (k, v) :: es

theorem fst_insertEntry {k : κ} {v : α} {es : List (κ × α)} {e : κ × α}
    (h : e ∈ insertEntry k v es) : e = (k, v) ∨ e ∈ es := by
  induction es with
  | nil => simp_all [insertEntry]
  | cons x es ih =>
    simp only [insertEntry] at h
    split at h
    · simp_all
    · split at h
      · rcases List.mem_cons.1 h with rfl | h
        · simp
        · rcases ih h with h | h <;> simp [h]
      · rcases List.mem_cons.1 h with rfl | h <;> simp_all

theorem sorted_insertEntry {k : κ} {v : α} {es : List (κ × α)} (h : Ascending es) :
    Ascending (insertEntry k v es) := by
  induction es with
  | nil => simp [insertEntry, Ascending]
  | cons x es ih =>
    obtain ⟨k', v'⟩ := x
    have hx := List.pairwise_cons.1 h
    simp only [insertEntry]
    split
    case isTrue hlt =>
      refine List.pairwise_cons.2 ⟨?_, h⟩
      intro e he
      rcases List.mem_cons.1 he with rfl | he
      · exact hlt
      · exact KeyOrder.trans hlt (hx.1 e he)
    case isFalse hlt =>
      split
      case isTrue hgt =>
        refine List.pairwise_cons.2 ⟨?_, ih hx.2⟩
        intro e he
        rcases fst_insertEntry he with rfl | he
        · exact hgt
        · exact hx.1 e he
      case isFalse hgt =>
        have := KeyOrder.connected hlt hgt
        subst this
        exact List.pairwise_cons.2 ⟨hx.1, hx.2⟩

/-- A map with an entry, over the one that had its key. -/
def insert (k : κ) (v : α) (m : SortedMap κ α) : SortedMap κ α :=
  ⟨insertEntry k v m.entries, sorted_insertEntry m.sorted⟩

/-- The map of a list of entries, where a later entry goes over an earlier one. -/
def ofList (es : List (κ × α)) : SortedMap κ α := es.foldl (fun m e => m.insert e.1 e.2) empty

/-! ### Removal and look-up -/

/-- A map without the entry of a key. -/
def erase [DecidableEq κ] (k : κ) (m : SortedMap κ α) : SortedMap κ α :=
  ⟨m.entries.filter fun e => e.1 ≠ k, m.sorted.filter _⟩

/-- The value at a key. -/
def get? [DecidableEq κ] (m : SortedMap κ α) (k : κ) : Option α :=
  (m.entries.find? fun e => e.1 = k).map Prod.snd

/-- Whether a key has a value. -/
def contains [DecidableEq κ] (m : SortedMap κ α) (k : κ) : Bool := (m.get? k).isSome

/-- The same keys with other values. -/
def map (f : α → β) (m : SortedMap κ α) : SortedMap κ β :=
  ⟨m.entries.map fun e => (e.1, f e.2), by
    unfold Ascending; exact List.pairwise_map.2 m.sorted⟩

theorem get?_empty [DecidableEq κ] (k : κ) : (empty : SortedMap κ α).get? k = none := rfl

end SortedMap

end GceMachines
