import GceMachines.SortedMap

/-!
# Sorted maps as sets of entries

A map is known by the entries it has: two maps with the same entries are equal. An insertion
replaces the entry of its key and keeps all others, so a selection of entries that has nothing to
do with the key stays as it was, order included.

* `eq_of_mem_iff`: a map is known by its entries.
* `mem_insert_iff`: the entries after an insertion.
* `mem_drop_iff`: the place of an entry.
* `filter_insert`, `filter_erase`: selections that a change does not touch.
* `ofList_entries`: a map is the one that its entries make.
* `get?_eq_some_iff`, `get?_insert_of_ne`, `get?_erase_of_ne`: look-ups, and what a change of
  another key leaves of them.
* `contains_insert`, `contains_erase`: which keys there are after a change.
-/

namespace GceMachines

variable {κ α : Type} [KeyOrder κ]

theorem KeyOrder.ne_of_lt {a b : κ} (h : a < b) : a ≠ b := fun he => KeyOrder.irrefl b (he ▸ h)

theorem Ascending.unique {es : List (κ × α)} (h : Ascending es) {k : κ} {v v' : α}
    (hv : (k, v) ∈ es) (hv' : (k, v') ∈ es) : v = v' := by
  induction es with
  | nil => cases hv
  | cons e es ih =>
    obtain ⟨hlt, hes⟩ := List.pairwise_cons.mp h
    rcases List.mem_cons.mp hv with rfl | hm
    · rcases List.mem_cons.mp hv' with he | hm'
      · cases he
        rfl
      · exact absurd (hlt (k, v') hm') (KeyOrder.irrefl k)
    · rcases List.mem_cons.mp hv' with rfl | hm'
      · exact absurd (hlt (k, v) hm) (KeyOrder.irrefl k)
      · exact ih hes hm hm'

/-- **The place of an entry** in ascending order: behind those whose keys are below its own. -/
theorem Ascending.mem_drop_iff {es : List (κ × α)} (h : Ascending es) {k : κ} {v : α}
    (hv : (k, v) ∈ es) (n : Nat) : (k, v) ∈ es.drop n ↔ n ≤ es.countP fun e => e.1 < k := by
  induction es generalizing n with
  | nil => cases hv
  | cons e es ih =>
    obtain ⟨hlt, hes⟩ := List.pairwise_cons.mp h
    cases n with
    | zero => simp [List.mem_cons.mp hv]
    | succ n =>
      rw [List.drop_succ_cons]
      rcases List.mem_cons.mp hv with rfl | hm
      · -- it is the first one, and nothing is below it
        have hnone : ((k, v) :: es).countP (fun e => e.1 < k) = 0 := by
          rw [List.countP_eq_zero]
          intro e he hd
          have hek : e.1 < k := of_decide_eq_true hd
          rcases List.mem_cons.mp he with rfl | he
          · exact KeyOrder.irrefl k hek
          · exact KeyOrder.irrefl k (KeyOrder.trans (hlt e he) hek)
        rw [hnone]
        exact iff_of_false (fun hd => KeyOrder.irrefl k (hlt _ (List.mem_of_mem_drop hd)))
          (Nat.not_succ_le_zero n)
      · rw [ih hes hm, List.countP_cons_of_pos (by simpa using hlt _ hm), Nat.succ_le_succ_iff]

theorem Ascending.nodup {es : List (κ × α)} (h : Ascending es) : es.Nodup :=
  List.Pairwise.imp (fun hlt he => KeyOrder.ne_of_lt hlt (congrArg Prod.fst he)) h

namespace SortedMap

variable {m m' : SortedMap κ α} {k : κ} {v : α} {e : κ × α}

/-- **A map is known by its entries.** -/
theorem eq_of_mem_iff (h : ∀ e, e ∈ m.entries ↔ e ∈ m'.entries) : m = m' := by
  refine SortedMap.ext (List.Perm.eq_of_pairwise (fun a b _ _ hab hba => ?_) m.sorted m'.sorted ?_)
  · exact absurd (KeyOrder.trans hab hba) (KeyOrder.irrefl _)
  · exact (List.perm_ext_iff_of_nodup m.sorted.nodup m'.sorted.nodup).mpr h

theorem mem_insertEntry_iff {es : List (κ × α)} (h : Ascending es) :
    e ∈ insertEntry k v es ↔ e = (k, v) ∨ e ∈ es ∧ e.1 ≠ k := by
  induction es with
  | nil => simp [insertEntry]
  | cons x es ih =>
    obtain ⟨k', v'⟩ := x
    obtain ⟨hlt, hes⟩ := List.pairwise_cons.mp h
    rw [insertEntry]
    split
    · next hk =>
      -- every key from here on is above `k`
      have hne : ∀ e ∈ (k', v') :: es, e.1 ≠ k := by
        intro e he
        rcases List.mem_cons.mp he with rfl | he
        · exact (KeyOrder.ne_of_lt hk).symm
        · exact (KeyOrder.ne_of_lt (KeyOrder.trans hk (hlt e he))).symm
      rw [List.mem_cons]
      refine or_congr_right ⟨fun he => ⟨he, hne e he⟩, fun he => he.1⟩
    · next hk =>
      split
      · next hk' =>
        rw [List.mem_cons, ih hes, List.mem_cons]
        constructor
        · rintro (rfl | rfl | ⟨he, hn⟩)
          · exact .inr ⟨.inl rfl, KeyOrder.ne_of_lt hk'⟩
          · exact .inl rfl
          · exact .inr ⟨.inr he, hn⟩
        · rintro (rfl | ⟨rfl | he, hn⟩)
          · exact .inr (.inl rfl)
          · exact .inl rfl
          · exact .inr (.inr ⟨he, hn⟩)
      · next hk' =>
        obtain rfl := KeyOrder.connected hk hk'
        rw [List.mem_cons, List.mem_cons]
        constructor
        · rintro (rfl | he)
          · exact .inl rfl
          · exact .inr ⟨.inr he, (KeyOrder.ne_of_lt (hlt e he)).symm⟩
        · rintro (rfl | ⟨rfl | he, hn⟩)
          · exact .inl rfl
          · exact absurd rfl hn
          · exact .inr he

/-- **The entries after an insertion.** -/
theorem mem_insert_iff : e ∈ (m.insert k v).entries ↔ e = (k, v) ∨ e ∈ m.entries ∧ e.1 ≠ k :=
  mem_insertEntry_iff m.sorted

theorem filter_insertEntry {p : κ × α → Bool} {es : List (κ × α)} (hp : p (k, v) = false)
    (hk : ∀ e ∈ es, e.1 ≠ k) : (insertEntry k v es).filter p = es.filter p := by
  induction es with
  | nil => simp [insertEntry, hp]
  | cons x es ih =>
    obtain ⟨k', v'⟩ := x
    rw [insertEntry]
    split
    · rw [List.filter_cons_of_neg (by simp [hp])]
    · next h =>
      split
      · rw [List.filter_cons, List.filter_cons, ih fun e he => hk e (.tail _ he)]
      · next h' => exact absurd (KeyOrder.connected h h').symm (hk _ (.head _))

theorem length_insertEntry_le (k : κ) (v : α) (es : List (κ × α)) :
    (insertEntry k v es).length ≤ es.length + 1 := by
  induction es with
  | nil => exact Nat.le_refl 1
  | cons x es ih =>
    obtain ⟨k', v'⟩ := x
    rw [insertEntry]
    split
    · exact Nat.le_refl _
    · split
      · exact Nat.succ_le_succ ih
      · exact Nat.le_succ _

theorem size_insert_le (m : SortedMap κ α) (k : κ) (v : α) : (m.insert k v).size ≤ m.size + 1 :=
  length_insertEntry_le k v m.entries

theorem filter_insert {p : κ × α → Bool} (hp : p (k, v) = false) (hk : ∀ e ∈ m.entries, e.1 ≠ k) :
    (m.insert k v).entries.filter p = m.entries.filter p :=
  filter_insertEntry hp hk

theorem eq_empty_of_isEmpty (h : m.isEmpty = true) : m = empty :=
  SortedMap.ext (List.isEmpty_iff.mp h)

theorem insertEntry_of_forall_lt {es : List (κ × α)} (h : ∀ e ∈ es, e.1 < k) :
    insertEntry k v es = es ++ [(k, v)] := by
  induction es with
  | nil => rfl
  | cons e es ih =>
    have hlt : e.1 < k := h e (.head _)
    rw [insertEntry, if_neg fun hk => KeyOrder.irrefl k (KeyOrder.trans hk hlt), if_pos hlt,
      ih fun e he => h e (.tail _ he)]
    rfl

theorem entries_foldl_insert (es : List (κ × α)) (m : SortedMap κ α)
    (h : Ascending (m.entries ++ es)) :
    (es.foldl (fun m e => m.insert e.1 e.2) m).entries = m.entries ++ es := by
  induction es generalizing m with
  | nil => exact (List.append_nil _).symm
  | cons e es ih =>
    have hlast : (m.insert e.1 e.2).entries = m.entries ++ [e] :=
      insertEntry_of_forall_lt fun e' he' =>
        (List.pairwise_append.mp h).2.2 e' he' e (.head _)
    have hsplit : m.entries ++ e :: es = (m.insert e.1 e.2).entries ++ es := by
      rw [hlast, List.append_assoc]
      rfl
    rw [hsplit] at h ⊢
    exact ih _ h

/-- **A map is the one that its entries make.** -/
theorem ofList_entries (m : SortedMap κ α) : ofList m.entries = m :=
  SortedMap.ext (entries_foldl_insert m.entries empty m.sorted)

variable [DecidableEq κ]

theorem size_erase_le (m : SortedMap κ α) (k : κ) : (m.erase k).size ≤ m.size :=
  List.length_filter_le _ _

theorem filter_erase {p : κ × α → Bool} (h : ∀ e ∈ m.entries, e.1 = k → p e = false) :
    (m.erase k).entries.filter p = m.entries.filter p := by
  unfold erase
  rw [List.filter_filter]
  refine List.filter_congr fun e he => ?_
  by_cases hk : e.1 = k
  · rw [h e he hk, Bool.false_and]
  · simp [hk]

theorem ne_of_contains_eq_false (h : m.contains k = false) : ∀ e ∈ m.entries, e.1 ≠ k := by
  intro e he hk
  unfold contains get? at h
  rw [Option.isSome_map, List.find?_isSome.mpr ⟨e, he, by simpa using hk⟩] at h
  cases h

/-! ### Look-ups -/

/-- **A look-up finds the entry of its key.** -/
theorem get?_eq_some_iff : m.get? k = some v ↔ (k, v) ∈ m.entries := by
  unfold get?
  rw [Option.map_eq_some_iff]
  constructor
  · rintro ⟨⟨k', v'⟩, hf, rfl⟩
    have hk : k' = k := by simpa using List.find?_some hf
    rw [← hk]
    exact List.mem_of_find?_eq_some hf
  · intro hv
    have hsome : (m.entries.find? fun e => e.1 = k).isSome = true :=
      List.find?_isSome.mpr ⟨(k, v), hv, by simp⟩
    obtain ⟨⟨k', v'⟩, hf⟩ := Option.isSome_iff_exists.mp hsome
    have hk : k' = k := by simpa using List.find?_some hf
    have hv' : (k, v') ∈ m.entries := hk ▸ List.mem_of_find?_eq_some hf
    exact ⟨_, hf, m.sorted.unique hv' hv⟩

theorem get?_eq_none_iff : m.get? k = none ↔ ∀ e ∈ m.entries, e.1 ≠ k := by
  rw [Option.eq_none_iff_forall_ne_some]
  constructor
  · rintro h e he rfl
    exact h e.2 (get?_eq_some_iff.mpr he)
  · intro h v hv
    exact h _ (get?_eq_some_iff.mp hv) rfl

theorem contains_eq_false_iff : m.contains k = false ↔ m.get? k = none := by
  unfold contains
  rw [Option.isSome_eq_false_iff, Option.isNone_iff_eq_none]

theorem get?_insert_self : (m.insert k v).get? k = some v :=
  get?_eq_some_iff.mpr (mem_insert_iff.mpr (.inl rfl))

theorem get?_insert_of_ne {k' : κ} (h : k' ≠ k) : (m.insert k v).get? k' = m.get? k' := by
  refine Option.ext fun v' => ?_
  rw [get?_eq_some_iff, get?_eq_some_iff, mem_insert_iff]
  constructor
  · rintro (he | ⟨he, -⟩)
    · exact absurd (congrArg Prod.fst he) h
    · exact he
  · exact fun he => .inr ⟨he, h⟩

theorem mem_erase_iff : e ∈ (m.erase k).entries ↔ e ∈ m.entries ∧ e.1 ≠ k := by
  unfold erase
  simp

theorem get?_erase_self : (m.erase k).get? k = none :=
  get?_eq_none_iff.mpr fun _ he => (mem_erase_iff.mp he).2

/-- **What was put in under a free key can be taken out again.** -/
theorem erase_insert (h : m.get? k = none) : (m.insert k v).erase k = m := by
  refine eq_of_mem_iff fun e => ?_
  rw [mem_erase_iff, mem_insert_iff]
  constructor
  · rintro ⟨rfl | ⟨he, -⟩, hne⟩
    · exact absurd rfl hne
    · exact he
  · intro he
    have hne := get?_eq_none_iff.mp h e he
    exact ⟨.inr ⟨he, hne⟩, hne⟩

theorem get?_erase_of_ne {k' : κ} (h : k' ≠ k) : (m.erase k).get? k' = m.get? k' := by
  refine Option.ext fun v' => ?_
  rw [get?_eq_some_iff, get?_eq_some_iff, mem_erase_iff]
  exact and_iff_left h

theorem contains_insert (m : SortedMap κ α) (k k' : κ) (v : α) :
    (m.insert k v).contains k' = (decide (k' = k) || m.contains k') := by
  unfold contains
  by_cases h : k' = k
  · subst h
    simp [get?_insert_self]
  · simp [get?_insert_of_ne h, h]

theorem contains_erase (m : SortedMap κ α) (k k' : κ) :
    (m.erase k).contains k' = (!decide (k' = k) && m.contains k') := by
  unfold contains
  by_cases h : k' = k
  · subst h
    simp [get?_erase_self]
  · simp [get?_erase_of_ne h, h]

end SortedMap

end GceMachines
