import GceMachines.Machine.Id

/-!
# Ids as a partial bijection

An id stands for one machine only: that of an accepted id is known from its text, and whatever
machine is written, either it is read back or nothing is.

* `Addressable`: the machines whose parts can stand in an id.
* `parse?_eq_some_iff`: reading undoes writing on them, and accepts nothing else.
* `eq_of_text_eq`: no other machine has the id of one of them.
* `id_codec_exact`: reading and writing by the parts, with the failures.
-/

namespace GceMachines.MachineId

/-- **The parts of a machine can stand in an id**: none is empty, and none has a slash. -/
structure Addressable (m : MachineId) : Prop where
  project_ne : m.project ≠ ""
  zone_ne : m.zone ≠ ""
  name_ne : m.name ≠ ""
  slash_not_mem : ∀ part ∈ [m.project, m.zone, m.name], '/' ∉ part.toList

variable {m m' : MachineId} {id project zone name : String}

/-! ### Parts and slashes -/

/-- The parts of a machine with slashes between them. -/
def joined (m : MachineId) : String := m.project ++ "/" ++ m.zone ++ "/" ++ m.name

theorem splitOn_eq_parts_iff {rest : String} :
    Text.splitOn '/' rest = [m.project, m.zone, m.name] ↔
      (∀ part ∈ [m.project, m.zone, m.name], '/' ∉ part.toList) ∧ m.joined = rest := by
  rw [Text.splitOn_eq_iff, ← String.toList_inj, joined]
  simp

theorem text_of_name_ne (h : m.name ≠ "") : m.text = scheme ++ "/" ++ m.joined := by
  unfold text joined
  rw [if_neg (by simpa using h)]
  simp only [String.append_assoc]

theorem name_ne_of_text_ne (h : m.text ≠ "") : m.name ≠ "" := by
  rintro hn
  refine h ?_
  unfold text
  rw [if_pos (by simp [hn])]

/-- Parts that together have two slashes between them and no more have none of their own. -/
theorem slash_not_mem_of_joined_eq
    (h' : ∀ part ∈ [m'.project, m'.zone, m'.name], '/' ∉ part.toList) (h : m.joined = m'.joined) :
    ∀ part ∈ [m.project, m.zone, m.name], '/' ∉ part.toList := by
  have hcount (k : MachineId) : k.joined.toList.count '/' =
      k.project.toList.count '/' + k.zone.toList.count '/' + k.name.toList.count '/' + 2 := by
    simp [joined]
    omega
  have hsame := hcount m
  rw [h, hcount m'] at hsame
  simp only [List.mem_cons, List.not_mem_nil, or_false, forall_eq_or_imp, forall_eq,
    ← List.count_eq_zero] at h' ⊢
  omega

/-! ### Reading and writing -/

/-- **The ids that are accepted** are those of the machines whose parts can stand in one. -/
theorem parse?_eq_some_iff : parse? id = some m ↔ m.Addressable ∧ m.text = id := by
  unfold parse?
  simp only [Option.bind_eq_bind, Option.bind_eq_some_iff, Text.dropBeginning?_eq_some_iff]
  constructor
  · rintro ⟨rest, rfl, h⟩
    split at h
    · next p z n hs =>
      split at h
      · cases h
      · next hne =>
        cases h
        simp only [Bool.or_eq_true, String.isEmpty_iff, not_or] at hne
        obtain ⟨hfree, rfl⟩ := splitOn_eq_parts_iff (m := ⟨p, z, n⟩).mp hs
        exact ⟨⟨hne.1.1, hne.1.2, hne.2, hfree⟩, text_of_name_ne hne.2⟩
    · cases h
  · rintro ⟨h, rfl⟩
    refine ⟨m.joined, (text_of_name_ne h.name_ne).symm, ?_⟩
    rw [splitOn_eq_parts_iff.mpr ⟨h.slash_not_mem, rfl⟩]
    dsimp only
    rw [if_neg (by simp [h.project_ne, h.zone_ne, h.name_ne])]

/-- **No other machine has the id** of one whose parts can stand in it. -/
theorem eq_of_text_eq (h' : m'.Addressable) (h : m.text = m'.text) : m = m' := by
  have hne : m.name ≠ "" := by
    refine name_ne_of_text_ne ?_
    rw [h, text_of_name_ne h'.name_ne]
    simp
  rw [text_of_name_ne hne, text_of_name_ne h'.name_ne, String.append_right_inj] at h
  have hfree := slash_not_mem_of_joined_eq h'.slash_not_mem h
  have hparts := (splitOn_eq_parts_iff.mpr ⟨hfree, h⟩).symm.trans
    (splitOn_eq_parts_iff.mpr ⟨h'.slash_not_mem, rfl⟩)
  cases m
  cases m'
  simpa using hparts

/-! ### By the parts -/

theorem partsOf_eq_ok_iff :
    partsOf id = .ok (project, zone, name) ↔
      Addressable ⟨project, zone, name⟩ ∧ textOf project zone name = id := by
  rw [textOf, ← parse?_eq_some_iff]
  unfold partsOf
  cases h : parse? id with
  | none => simp
  | some m =>
    cases m
    simp

theorem eq_malformed_of_partsOf_eq_error {e : MachineError} (h : partsOf id = .error e) :
    e = .malformedIdentifier id := by
  unfold partsOf at h
  split at h
  · cases h
  · cases h
    rfl

theorem partsOf_textOf_of_not_addressable (h : ¬ Addressable ⟨project, zone, name⟩) :
    partsOf (textOf project zone name) = .error (.malformedIdentifier (textOf project zone name)) := by
  cases hr : partsOf (textOf project zone name) with
  | error e => rw [eq_malformed_of_partsOf_eq_error hr]
  | ok parts =>
    obtain ⟨project', zone', name'⟩ := parts
    obtain ⟨h', htext⟩ := partsOf_eq_ok_iff.mp hr
    exact absurd (eq_of_text_eq h' htext.symm ▸ h') h

/-- **The id codec is an exact partial bijection.** An id that is accepted gives three parts that
are not empty and have no slash, and it is the id of these parts. Three parts are read back from
their id exactly if they are of this kind, and otherwise their id is refused and told in the
failure. Parts of this kind with the same id are therefore the same, no parts at all have an
accepted id but those that are read from it, and every id that is refused is told as it is. A
machine is shown, written and read by its parts. -/
theorem id_codec_exact :
    (∀ s project zone name, partsOf s = .ok (project, zone, name) →
      Addressable ⟨project, zone, name⟩ ∧ textOf project zone name = s) ∧
    (∀ project zone name,
      (partsOf (textOf project zone name) = .ok (project, zone, name) ↔
        Addressable ⟨project, zone, name⟩) ∧
      (¬ Addressable ⟨project, zone, name⟩ →
        partsOf (textOf project zone name) =
          .error (.malformedIdentifier (textOf project zone name)))) ∧
    (∀ m m' : MachineId, m.Addressable → m'.Addressable → m.text = m'.text → m = m') ∧
    (∀ (s : String) (m m' : MachineId), ofText s = .ok m → m'.text = s → m' = m) ∧
    (∀ s e, partsOf s = .error e → e = .malformedIdentifier s) ∧
    (∀ m : MachineId, toString m = m.text ∧ m.text = textOf m.project m.zone m.name) ∧
    ∀ s, ofText s = (partsOf s).map fun (project, zone, name) => ⟨project, zone, name⟩ := by
  refine ⟨fun s project zone name => partsOf_eq_ok_iff.mp, fun project zone name => ⟨?_, ?_⟩,
    fun m m' _ h' => eq_of_text_eq h', fun s m m' h hs => ?_,
    fun s e => eq_malformed_of_partsOf_eq_error, fun m => ⟨rfl, rfl⟩, fun s => rfl⟩
  · rw [partsOf_eq_ok_iff]
    exact and_iff_left rfl
  · exact partsOf_textOf_of_not_addressable
  · unfold ofText at h
    cases hr : partsOf s with
    | error e =>
      rw [hr] at h
      cases h
    | ok parts =>
      rw [hr] at h
      cases h
      obtain ⟨hm, htext⟩ := partsOf_eq_ok_iff.mp hr
      exact eq_of_text_eq hm (hs.trans htext.symm)

end GceMachines.MachineId
