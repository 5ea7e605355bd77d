import GceMachines.Proofs.Json.Lenient

/-!
# What stands under one name

A record takes each of its fields from at most one member of an object, the one with the name of the
field: a second one is refused, and other members do not touch the field. Two records that have a
field of one name therefore take the same from an object that both of them accept, whatever else
either of them wants of it. A list is accepted only if it is not longer than the fields and the
fields that it leaves out are optional.

* `Members.under`: what stands under a name.
* `Field.Holds`, `Field.Leaves`: what a field does to a part of the record.
* `Record.Keeps`: a record has a field of this name.
* `Record.Keeps.read_object`: the field is what stands under the name, or blank if there is nothing.
* `Record.Keeps.read_object_eq`: two records that accept one object.
* `Record.read_array`: the lists that a record accepts.
* `Format.read_of_decode`: the document of a text.
-/

namespace GceMachines.Json

variable {α ρ σ : Type} {name : String} {f : Format α} {room : Nat}

/-- **What stands under a name** in an object. -/
def Members.under (name : String) : Members → List Document
  | .close _ => []
  | .noKey _ => []
  | .member k d rest =>
    if k.value.toOption = some name then d :: rest.under name else rest.under name

/-- How many items a list has. -/
def Items.length : Items → Nat
  | .close _ => 0
  | .item _ rest => rest.length + 1

theorem Items.length_of_surplus {is : Items} (h : is.surplus = .ok ()) : is.length = 0 := by
  cases is with
  | close how => rfl
  | item d rest => cases h

/-! ### One field -/

namespace Field

variable {fd : Field ρ} {get : ρ → α}

/-- A field holds what a format reads. -/
def Holds (fd : Field ρ) (f : Format α) (get : ρ → α) : Prop :=
  ∀ ⦃room d u v⦄, fd.read room d u = .ok v → f.read room d = .ok (get v)

/-- A field does not touch a part of the record. -/
def Leaves (fd : Field ρ) (get : ρ → α) : Prop :=
  ∀ ⦃room d u v⦄, fd.read room d u = .ok v → get v = get u

@[simp]
theorem name_omitting {hide : α → Bool} {set : ρ → α → ρ} :
    (omitting hide name f get set).name = name := rfl

@[simp]
theorem name_needed : fd.needed.name = fd.name := rfl

@[simp]
theorem holds_omitting {hide : α → Bool} {set : ρ → α → ρ} (h : ∀ u a, get (set u a) = a) :
    (omitting hide name f get set).Holds f get := by
  intro room d u v hread
  obtain ⟨a, ha, rfl⟩ := exists_of_map hread
  rw [h, ha]

@[simp]
theorem leaves_omitting {β : Type} {g : Format β} {hide : β → Bool} {own : ρ → β}
    {set : ρ → β → ρ} (h : ∀ u a, get (set u a) = get u) :
    (omitting hide name g own set).Leaves get := by
  intro room d u v hread
  obtain ⟨a, -, rfl⟩ := exists_of_map hread
  exact h u a

@[simp]
theorem holds_needed : fd.needed.Holds f get ↔ fd.Holds f get := Iff.rfl

@[simp]
theorem leaves_needed : fd.needed.Leaves get ↔ fd.Leaves get := Iff.rfl

end Field

/-! ### Records -/

namespace Record

variable {r : Record ρ} {get : ρ → α} {v : ρ}

/-- **A record keeps what stands under a name**: the field of this name holds it, and no other field
touches it. -/
structure Keeps (r : Record ρ) (name : String) (f : Format α) (get : ρ → α) : Prop where
  known : name ∈ r.fields.map Field.name
  own : ∀ fd ∈ r.fields, fd.name = name → fd.Holds f get
  others : ∀ fd ∈ r.fields, fd.name ≠ name → fd.Leaves get

/-- The members of an object that is read hold the name at most once, and not if it was met before.
What stands under it is kept. -/
theorem Keeps.readMembers (h : r.Keeps name f get) :
    ∀ (ms : Members) (met : List String) (u : ρ) (s : List String × ρ),
      r.readMembers room ms met u = .ok s →
        (ms.under name = [] ∧ get s.2 = get u) ∨
          ∃ d, name ∉ met ∧ ms.under name = [d] ∧ f.read room d = .ok (get s.2)
  | .close how, met, u, s, hread => by
    obtain ⟨_, -, rfl⟩ := exists_of_map hread
    exact .inl ⟨rfl, rfl⟩
  | .member k d ms, met, u, s, hread => by
    obtain ⟨key, hkey, hread⟩ := exists_of_bind hread
    rw [Members.under, hkey, toOption_ok]
    cases hfd : r.field? key with
    | none =>
      -- the name is that of a field, so this is another one
      rw [hfd] at hread
      obtain ⟨_, -, hread⟩ := exists_of_bind hread
      have hne : key ≠ name := by
        rintro rfl
        obtain ⟨fd, hmem, hname⟩ := List.mem_map.mp h.known
        exact List.find?_eq_none.mp hfd fd hmem (by simpa using hname)
      rw [if_neg (by simpa using hne)]
      exact h.readMembers ms met u s hread
    | some fd =>
      rw [hfd] at hread
      dsimp only at hread
      split at hread
      · cases hread
      · next hnew =>
        obtain ⟨v, hv, hread⟩ := exists_of_bind hread
        obtain ⟨hmem, hname⟩ := mem_of_field? hfd
        have ih := h.readMembers ms (key :: met) v s hread
        by_cases hkn : key = name
        · -- the rest does not hold the name, which has been met now
          subst hkn
          rw [if_pos rfl]
          obtain ⟨hunder, hget⟩ | ⟨_, hmet, -⟩ := ih
          · exact .inr ⟨d, hnew, by rw [hunder], hget ▸ h.own fd hmem hname hv⟩
          · exact absurd (.head _) hmet
        · rw [if_neg (by simpa using hkn)]
          obtain ⟨hunder, hget⟩ | ⟨d, hmet, hunder, hd⟩ := ih
          · exact .inl ⟨hunder, hget.trans (h.others fd hmem (hname ▸ hkn) hv)⟩
          · exact .inr ⟨d, fun hin => hmet (.tail _ hin), hunder, hd⟩

/-- **A field of an object** is what stands under its name, once, or blank if there is nothing. -/
theorem Keeps.read_object (h : r.Keeps name f get) {ms : Members}
    (hread : r.read room (.object ms) = .ok v) :
    (ms.under name = [] ∧ get v = get r.blank) ∨
      ∃ d, ms.under name = [d] ∧ f.read (room - 1) d = .ok (get v) := by
  obtain ⟨inner, henter, hread⟩ := exists_of_bind hread
  obtain ⟨⟨met, w⟩, hmembers, hread⟩ := exists_of_bind hread
  have hinner : inner = room - 1 := by
    unfold Format.enter at henter
    split at henter
    · cases henter
    · exact (Except.ok.inj henter).symm
  have hw : w = v := by
    dsimp only at hread
    split at hread
    · cases hread
    · exact Except.ok.inj hread
  subst hinner hw
  obtain hnone | ⟨d, -, hunder, hd⟩ := h.readMembers ms [] r.blank (met, w) hmembers
  · exact .inl hnone
  · exact .inr ⟨d, hunder, hd⟩

/-- **Two records that accept one object** take the same from it, if what they hold blank is the
same. -/
theorem Keeps.read_object_eq {r' : Record σ} {get' : σ → α} {v' : σ} (h : r.Keeps name f get)
    (h' : r'.Keeps name f get') (hblank : get r.blank = get' r'.blank) {ms : Members}
    (hread : r.read room (.object ms) = .ok v) (hread' : r'.read room (.object ms) = .ok v') :
    get v = get' v' := by
  obtain ⟨hunder, hv⟩ | ⟨d, hunder, hd⟩ := h.read_object hread
  all_goals obtain ⟨hunder', hv'⟩ | ⟨d', hunder', hd'⟩ := h'.read_object hread'
  · rw [hv, hv', hblank]
  · rw [hunder] at hunder'
    cases hunder'
  · rw [hunder] at hunder'
    cases hunder'
  · rw [hunder] at hunder'
    cases hunder'
    exact Except.ok.inj (hd.symm.trans hd')

theorem readItems_fits : ∀ (is : Items) (n : Nat) (fds : List (Field ρ)) (u v : ρ),
    r.readItems room n fds is u = .ok v →
      is.length ≤ fds.length ∧ ∀ fd ∈ fds.drop is.length, fd.presence = .optional
  | is, n, [], u, v, hread => by
    obtain ⟨_, hsurplus, -⟩ := exists_of_map hread
    rw [Items.length_of_surplus hsurplus]
    exact ⟨Nat.le_refl _, nofun⟩
  | .close how, n, fd :: fds, u, v, hread => by
    obtain ⟨_, -, hread⟩ := exists_of_bind hread
    split at hread
    · next hoptional =>
      obtain ⟨-, hrest⟩ := readItems_fits (.close how) (n + 1) fds u v hread
      refine ⟨Nat.zero_le _, fun fd' hfd' => ?_⟩
      rcases List.mem_cons.mp hfd' with rfl | hfd'
      · exact hoptional
      · exact hrest fd' hfd'
    · cases hread
  | .item d rest, n, fd :: fds, u, v, hread => by
    obtain ⟨w, -, hread⟩ := exists_of_bind hread
    obtain ⟨hlength, hrest⟩ := readItems_fits rest (n + 1) fds w v hread
    exact ⟨Nat.succ_le_succ hlength, hrest⟩

/-- **The lists that a record accepts** are not longer than its fields, and the fields that they
leave out are optional. -/
theorem read_array {is : Items} (hread : r.read room (.array is) = .ok v) :
    is.length ≤ r.fields.length ∧ ∀ fd ∈ r.fields.drop is.length, fd.presence = .optional := by
  obtain ⟨inner, -, hread⟩ := exists_of_bind hread
  exact readItems_fits is 0 r.fields r.blank v hread

end Record

/-! ### Texts -/

theorem Format.read_of_decode {text : List UInt8} {a : α}
    (h : f.decode text = .ok a) : f.read depthLimit (parse text).1 = .ok a := by
  unfold Format.decode Json.decode at h
  cases hparse : parse text with
  | mk d r =>
    rw [hparse] at h
    obtain ⟨b, hb, h⟩ := exists_of_bind h
    cases hrest : (r.getD []).all isSpace with
    | true =>
      rw [hrest] at h
      exact hb.trans h
    | false =>
      rw [hrest] at h
      cases h

end GceMachines.Json
