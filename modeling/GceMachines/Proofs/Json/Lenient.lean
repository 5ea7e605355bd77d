import Mathlib.Data.Finset.Insert
import Mathlib.Data.List.Pairwise
import Mathlib.Data.List.Perm.Basic
import GceMachines.Proofs.Json.Edit
import GceMachines.Proofs.Json.Record
import GceMachines.Proofs.Json.Strict

/-!
# Formats that do not notice edits

A format overlooks edits if what it reads, if anything, stays the same. Reading the members of an
object is a fold in which a member without a field leaves everything as it is, and two members may
be exchanged if their fields fill different places. So the format of a record overlooks edits as
soon as its fields do.

* `Format.Overlooks`: what a format reads stays the same.
* `Field.Apart`: two fields that fill different places.
* `Record.read_object`: an object is read by folding its members.
* `overlooks_list`, `overlooks_option`, `Record.overlooks`: the formats with records inside.
* `Format.DependsOnKnown`, `Lenient.dependsOnKnown`: from documents to texts.
-/

namespace GceMachines.Json

/-- **A format overlooks edits**: what it reads, if anything, stays the same. -/
def Format.Overlooks {α : Type} (f : Format α) (s : Shape) : Prop :=
  ∀ ⦃d d'⦄, Edit s d d' → ∀ room, (f.read room d).toOption = (f.read room d').toOption

/-- A field overlooks edits of its value. -/
def Field.Overlooks {ρ : Type} (fd : Field ρ) (s : Shape) : Prop :=
  ∀ ⦃d d'⦄, Edit s d d' → ∀ room u, (fd.read room d u).toOption = (fd.read room d' u).toOption

/-- **Two fields fill different places**: it does not matter which of them is read first. -/
def Field.Apart {ρ : Type} (f g : Field ρ) : Prop :=
  ∀ room d e u, ((f.read room d u).toOption.bind fun v => (g.read room e v).toOption) =
    (g.read room e u).toOption.bind fun v => (f.read room d v).toOption

variable {α β ρ : Type} {f : Format α} {s : Shape} {d d' : Document} {room : Nat}

/-! ### What is read, if anything -/

theorem toOption_ok (a : α) : (Except.ok a : Except Fault α).toOption = some a := rfl

theorem toOption_bind (x : Except Fault α) (g : α → Except Fault β) :
    (x.bind g).toOption = x.toOption.bind fun a => (g a).toOption := by
  cases x <;> rfl

theorem toOption_map (x : Except Fault α) (g : α → β) :
    (x.map g).toOption = x.toOption.map g := by
  cases x <;> rfl

theorem toOption_eq_some_iff {x : Except Fault α} {a : α} : x.toOption = some a ↔ x = .ok a := by
  cases x with
  | error e => exact iff_of_false nofun nofun
  | ok b => exact ⟨fun h => congrArg _ (Option.some.inj h), fun h => by cases h; rfl⟩

/-! ### Kinds of fields -/

section
variable {hide : α → Bool} {name : String} {get : ρ → α} {set : ρ → α → ρ}

theorem Field.overlooks_omitting (hf : f.Overlooks s) :
    (Field.omitting hide name f get set).Overlooks s := by
  intro d d' h room u
  show ((f.read room d).map _).toOption = ((f.read room d').map _).toOption
  rw [toOption_map, toOption_map, hf h]

@[simp]
theorem Field.apart_omitting {g : Format β} {hide' : β → Bool} {name' : String} {get' : ρ → β}
    {set' : ρ → β → ρ} (h : ∀ u a b, set' (set u a) b = set (set' u b) a) :
    (Field.omitting hide name f get set).Apart (Field.omitting hide' name' g get' set') := by
  intro room d e u
  show (((f.read room d).map (set u)).toOption.bind fun v =>
      ((g.read room e).map (set' v)).toOption) =
    ((g.read room e).map (set' u)).toOption.bind fun v => ((f.read room d).map (set v)).toOption
  cases f.read room d with
  | error _ => cases g.read room e <;> rfl
  | ok a =>
    cases g.read room e with
    | error _ => rfl
    | ok b => exact congrArg some (h u a b)

@[simp]
theorem Field.apart_needed {f g : Field ρ} : f.needed.Apart g ↔ f.Apart g := Iff.rfl

@[simp]
theorem Field.needed_apart {f g : Field ρ} : f.Apart g.needed ↔ f.Apart g := Iff.rfl

instance : Std.Symm (@Field.Apart ρ) := ⟨fun _ _ h room d e u => (h room e d u).symm⟩

end

/-! ### Lists and options -/

theorem Format.readItems_toOption {read : Document → Except Fault α}
    (h : (read d).toOption = (read d').toOption) (before after : List Document) :
    (readItems read (.ofList (before ++ d :: after))).toOption =
      (readItems read (.ofList (before ++ d' :: after))).toOption := by
  induction before with
  | nil =>
    rw [List.nil_append, List.nil_append, Items.ofList, Items.ofList, readItems, readItems,
      toOption_bind, toOption_bind, h]
  | cons e before ih =>
    rw [List.cons_append, List.cons_append, Items.ofList, Items.ofList, readItems, readItems,
      toOption_bind, toOption_bind]
    simp only [toOption_map, ih]

theorem Format.overlooks_list (hf : f.Overlooks s) : (list f).Overlooks (.list s) := by
  intro d d' h room
  cases h with
  | @item _ before after d d' h =>
    show ((enter room).bind _).toOption = ((enter room).bind _).toOption
    simp only [toOption_bind]
    congr 1
    funext room
    exact readItems_toOption (hf h room) before after

theorem Format.option_read (hd : d ≠ .null) : f.option.read room d = (f.read room d).map some := by
  cases d with
  | null => exact absurd rfl hd
  | _ => rfl

theorem Format.overlooks_option (hf : f.Overlooks s) : f.option.Overlooks s := by
  intro d d' h room
  rw [option_read h.ne_null.1, option_read h.ne_null.2, toOption_map, toOption_map, hf h]

/-! ### Records -/

namespace Record

variable {r : Record ρ}

theorem mem_of_field? {name : String} {fd : Field ρ} (h : r.field? name = some fd) :
    fd ∈ r.fields ∧ fd.name = name :=
  ⟨List.mem_of_find?_eq_some h, by simpa using List.find?_some h⟩

theorem field?_eq_none {name : String} (h : name ∉ r.fields.map Field.name) :
    r.field? name = none := by
  refine List.find?_eq_none.mpr fun fd hfd => ?_
  rw [decide_eq_true_eq]
  rintro rfl
  exact h (List.mem_map_of_mem hfd)

/-- What a member of a name makes of a record and the names met. -/
def take (r : Record ρ) (room : Nat) (name : String) (d : Document) (s : Finset String × ρ) :
    Option (Finset String × ρ) :=
  match r.field? name with
  | none => d.skip.toOption.map fun _ => s
  | some f => if name ∈ s.1 then none else (f.read room d s.2).toOption.map (insert name s.1, ·)

theorem take_none {name : String} (h : r.field? name = none) (d : Document)
    (s : Finset String × ρ) : r.take room name d s = d.skip.toOption.map fun _ => s := by
  unfold take
  rw [h]

theorem take_some {f : Field ρ} {name : String} (h : r.field? name = some f) (d : Document)
    (s : Finset String × ρ) : r.take room name d s =
      if name ∈ s.1 then none else (f.read room d s.2).toOption.map (insert name s.1, ·) := by
  unfold take
  rw [h]

/-- One step of the fold over members. -/
def fill (r : Record ρ) (room : Nat) (s : Option (Finset String × ρ))
    (m : Token String × Document) : Option (Finset String × ρ) :=
  s.bind fun s => m.1.value.toOption.bind fun name => r.take room name m.2 s

theorem foldl_fill_none (ms : List (Token String × Document)) :
    ms.foldl (r.fill room) none = none := by
  induction ms with
  | nil => rfl
  | cons m ms ih => exact ih

/-- **The members of an object are read by a fold.** -/
theorem readMembers_toOption (ms : List (Token String × Document)) (met : List String) (v : ρ) :
    ((r.readMembers room (.ofList ms) met v).toOption.map fun s => (s.1.toFinset, s.2)) =
      ms.foldl (r.fill room) (some (met.toFinset, v)) := by
  induction ms generalizing met v with
  | nil => rfl
  | cons m ms ih =>
    obtain ⟨k, d⟩ := m
    rw [Members.ofList, readMembers, List.foldl_cons, fill, Option.bind_some, toOption_bind]
    cases k.value with
    | error _ => exact (foldl_fill_none ms).symm
    | ok name =>
      rw [toOption_ok, Option.bind_some, Option.bind_some]
      cases hfd : r.field? name with
      | none =>
        rw [take_none hfd]
        dsimp only
        rw [toOption_bind]
        cases d.skip with
        | error _ => exact (foldl_fill_none ms).symm
        | ok _ => exact ih met v
      | some f =>
        rw [take_some hfd]
        dsimp only
        by_cases hmet : name ∈ met
        · rw [if_pos hmet, if_pos (List.mem_toFinset.mpr hmet)]
          exact (foldl_fill_none ms).symm
        · rw [if_neg hmet, if_neg fun h => hmet (List.mem_toFinset.mp h), toOption_bind]
          cases f.read room d v with
          | error _ => exact (foldl_fill_none ms).symm
          | ok w =>
            have hstep := ih (name :: met) w
            rw [List.toFinset_cons] at hstep
            exact hstep

theorem take_of_field?_none {name : String} (h : r.field? name = none) (d : Document) :
    (∀ s, r.take room name d s = some s) ∨ ∀ s, r.take room name d s = none := by
  simp only [take_none h]
  cases d.skip with
  | error _ => exact .inr fun _ => rfl
  | ok _ => exact .inl fun _ => rfl

theorem bind_of_some_or_none {g g' : α → Option α}
    (h : (∀ a, g a = some a) ∨ ∀ a, g a = none) (a : α) :
    (g a).bind g' = (g' a).bind g := by
  rcases h with h | h
  · rw [h a, funext h, Option.bind_some, Option.bind_fun_some]
  · rw [h a, funext h]
    exact (Option.bind_fun_none _).symm

theorem take_bind_take {f g : Field ρ} {name name' : String} (hf : r.field? name = some f)
    (hg : r.field? name' = some g) (d d' : Document) (s : Finset String × ρ) :
    (r.take room name d s).bind (r.take room name' d') =
      if name ∈ s.1 ∨ name' ∈ insert name s.1 then none else
        ((f.read room d s.2).toOption.bind fun v => (g.read room d' v).toOption).map
          (insert name' (insert name s.1), ·) := by
  rw [take_some hf]
  by_cases hname : name ∈ s.1
  · rw [if_pos hname, if_pos (.inl hname)]
    rfl
  rw [if_neg hname, Option.bind_map]
  have hnext (v : ρ) : r.take room name' d' (insert name s.1, v) =
      if name' ∈ insert name s.1 then none else
        (g.read room d' v).toOption.map (insert name' (insert name s.1), ·) := take_some hg d' _
  by_cases hname' : name' ∈ insert name s.1
  · rw [if_pos (.inr hname')]
    cases (f.read room d s.2).toOption with
    | none => rfl
    | some v => exact (hnext v).trans (if_pos hname')
  · rw [if_neg (not_or.mpr ⟨hname, hname'⟩), Option.map_bind]
    cases (f.read room d s.2).toOption with
    | none => rfl
    | some v => exact (hnext v).trans (if_neg hname')

/-- **Two members may be exchanged** if their fields fill different places. -/
theorem take_comm (hapart : r.fields.Pairwise Field.Apart) (name name' : String)
    (d d' : Document) (s : Finset String × ρ) :
    ((r.take room name d s).bind (r.take room name' d')) =
      (r.take room name' d' s).bind (r.take room name d) := by
  cases hf : r.field? name with
  | none => exact bind_of_some_or_none (take_of_field?_none hf d) s
  | some f =>
    cases hg : r.field? name' with
    | none => exact (bind_of_some_or_none (take_of_field?_none hg d') s).symm
    | some g =>
      have hrepeats : (name ∈ s.1 ∨ name' ∈ insert name s.1) ↔
          (name' ∈ s.1 ∨ name ∈ insert name' s.1) := by
        rw [Finset.mem_insert, Finset.mem_insert, eq_comm]
        tauto
      rw [take_bind_take hf hg, take_bind_take hg hf]
      by_cases hname : name' ∈ s.1 ∨ name ∈ insert name' s.1
      · rw [if_pos (hrepeats.mpr hname), if_pos hname]
      · -- the names differ, and so do the fields
        obtain ⟨hfmem, hfname⟩ := mem_of_field? hf
        obtain ⟨hgmem, hgname⟩ := mem_of_field? hg
        have hne : f ≠ g := by
          rintro rfl
          exact hname (.inr (hfname ▸ hgname ▸ Finset.mem_insert_self _ _))
        have hcomm := hapart.forall hfmem hgmem hne room d d' s.2
        rw [if_neg (mt hrepeats.mp hname), if_neg hname, hcomm, Finset.insert_comm]

theorem fill_comm (hapart : r.fields.Pairwise Field.Apart) (m m' : Token String × Document)
    (s : Option (Finset String × ρ)) :
    r.fill room (r.fill room s m) m' = r.fill room (r.fill room s m') m := by
  cases s with
  | none => rfl
  | some s =>
    show ((m.1.value.toOption.bind fun name => r.take room name m.2 s).bind fun s =>
        m'.1.value.toOption.bind fun name => r.take room name m'.2 s) =
      (m'.1.value.toOption.bind fun name => r.take room name m'.2 s).bind fun s =>
        m.1.value.toOption.bind fun name => r.take room name m.2 s
    cases m.1.value.toOption with
    | none => exact (Option.bind_fun_none _).symm
    | some name =>
      cases m'.1.value.toOption with
      | none => exact Option.bind_fun_none _
      | some name' => exact take_comm hapart name name' m.2 m'.2 s

/-- **The members of a record may be permuted.** -/
theorem foldl_fill_perm (hapart : r.fields.Pairwise Field.Apart)
    {ms ms' : List (Token String × Document)} (h : ms.Perm ms')
    (s : Option (Finset String × ρ)) :
    ms.foldl (r.fill room) s = ms'.foldl (r.fill room) s :=
  h.foldl_eq' (fun m _ m' _ s => fill_comm hapart m m' s) s

theorem fill_of_field?_none {k : Token String} {name : String} (hname : k.value = .ok name)
    (h : r.field? name = none) (hd : d.skip = .ok ()) (s : Option (Finset String × ρ)) :
    r.fill room s (k, d) = s := by
  cases s with
  | none => rfl
  | some s =>
    show (k.value.toOption.bind fun name => r.take room name d s) = some s
    rw [hname, toOption_ok, Option.bind_some, take_none h, hd]
    rfl

theorem fill_congr {k : Token String} {name : String} {fd : Field ρ} (hname : k.value = .ok name)
    (h : r.field? name = some fd)
    (hd : ∀ u, (fd.read room d u).toOption = (fd.read room d' u).toOption)
    (s : Option (Finset String × ρ)) : r.fill room s (k, d) = r.fill room s (k, d') := by
  cases s with
  | none => rfl
  | some s =>
    show (k.value.toOption.bind fun name => r.take room name d s) =
      k.value.toOption.bind fun name => r.take room name d' s
    rw [hname, toOption_ok, Option.bind_some, Option.bind_some, take_some h, take_some h, hd]

/-- What a record becomes when all members are read: nothing, if a required one has not been met. -/
def finish (r : Record ρ) (s : Finset String × ρ) : Option ρ :=
  if r.fields.all fun f => f.presence != .required || f.name ∈ s.1 then some s.2 else none

theorem missing?_eq_none_iff (met : List String) :
    r.missing? met = none ↔
      (r.fields.all fun f => f.presence != .required || f.name ∈ met.toFinset) = true := by
  unfold missing?
  rw [List.find?_eq_none, List.all_eq_true]
  simp [imp_iff_not_or]

/-- **An object is read by folding its members.** -/
theorem read_object (ms : List (Token String × Document)) :
    (r.read room (.object (.ofList ms))).toOption =
      (Format.enter room).toOption.bind fun room =>
        (ms.foldl (r.fill room) (some (∅, r.blank))).bind r.finish := by
  rw [Record.read, toOption_bind]
  congr 1
  funext room
  have hfold : _ = ms.foldl (r.fill room) (some (([] : List String).toFinset, r.blank)) :=
    readMembers_toOption ms [] r.blank
  rw [List.toFinset_nil] at hfold
  rw [← hfold, toOption_bind]
  cases r.readMembers room (.ofList ms) [] r.blank with
  | error _ => rfl
  | ok s =>
    obtain ⟨met, v⟩ := s
    have hmissing := missing?_eq_none_iff (r := r) met
    rw [toOption_ok, Option.bind_some, Option.map_some, Option.bind_some]
    dsimp only
    cases hmet : r.missing? met with
    | none => exact (if_pos (hmissing.mp hmet)).symm
    | some f =>
      refine (if_neg fun h => ?_).symm
      rw [hmissing.mpr h] at hmet
      cases hmet

theorem readItems_toOption (before after : List Document) (n : Nat) (fds : List (Field ρ))
    (hd : ∀ fd, fds[before.length]? = some fd →
      ∀ u, (fd.read room d u).toOption = (fd.read room d' u).toOption) (v : ρ) :
    (r.readItems room n fds (.ofList (before ++ d :: after)) v).toOption =
      (r.readItems room n fds (.ofList (before ++ d' :: after)) v).toOption := by
  induction before generalizing n fds v with
  | nil =>
    cases fds with
    | nil => rfl
    | cons fd fds =>
      rw [List.nil_append, List.nil_append, Items.ofList, Items.ofList, readItems, readItems,
        toOption_bind, toOption_bind, hd fd rfl]
  | cons e before ih =>
    cases fds with
    | nil => rfl
    | cons fd fds =>
      rw [List.cons_append, List.cons_append, Items.ofList, Items.ofList, readItems, readItems,
        toOption_bind, toOption_bind]
      congr 1
      funext v
      exact ih (n + 1) fds (fun fd hfd => hd fd hfd) v

theorem format_read (d : Document) : r.format.read room d = r.read room d := rfl

/-- The shape of a record: that of each of its fields. -/
def shape (r : Record ρ) (inner : List (String × Shape)) : Shape :=
  .record (r.fields.map fun fd => (fd.name, (inner.lookup fd.name).getD .plain))

/-- **The fields that hold records** overlook edits of these. -/
def Holds (r : Record ρ) (inner : List (String × Shape)) : Prop :=
  ∀ p ∈ inner, ∃ fd, r.field? p.1 = some fd ∧ fd.Overlooks p.2

theorem Holds.nil : r.Holds [] := nofun

theorem Holds.cons {hide : α → Bool} {name name' : String} {get : ρ → α} {set : ρ → α → ρ}
    {inner : List (String × Shape)}
    (hfd : r.field? name = some (Field.omitting hide name' f get set)) (hf : f.Overlooks s)
    (h : r.Holds inner) : r.Holds ((name, s) :: inner) :=
  List.forall_mem_cons.mpr ⟨⟨_, hfd, Field.overlooks_omitting hf⟩, h⟩

/-- **The format of a record overlooks edits** if its fields fill different places and those that
hold records overlook edits. -/
theorem overlooks {inner : List (String × Shape)} (hapart : r.fields.Pairwise Field.Apart)
    (hnames : (r.fields.map Field.name).Nodup) (h : r.Holds inner) :
    r.format.Overlooks (r.shape inner) := by
  -- the value of a field may be edited as its shape allows
  have hfield {fd : Field ρ} (hfd : fd ∈ r.fields) :
      fd.Overlooks ((inner.lookup fd.name).getD .plain) := by
    cases hlookup : inner.lookup fd.name with
    | none => exact nofun
    | some s =>
      obtain ⟨before, after, rfl, -⟩ := List.lookup_eq_some_iff.mp hlookup
      obtain ⟨fd', hfind, hover⟩ := h (fd.name, s) (List.mem_append_right _ (.head _))
      obtain rfl := Option.some.inj ((field?_name hnames hfd).symm.trans hfind)
      exact hover
  intro d d' hedit room
  cases hedit with
  | permute hperm =>
    simp only [format_read, read_object, foldl_fill_perm hapart hperm]
  | @insert _ before after k name d key text hk hname hnew hd =>
    -- what is put in leaves everything as it is
    have hnone : r.field? name = none := by
      rw [List.map_map] at hnew
      exact field?_eq_none hnew
    simp only [format_read, read_object, List.foldl_append, List.foldl_cons,
      fill_of_field?_none hname hnone hd.skip]
  | @member _ before after k name s d d' hname hs h =>
    obtain ⟨fd, hfd, hpair⟩ := List.mem_map.mp hs
    cases hpair
    have hfill (room) := fill_congr (r := r) hname (field?_name hnames hfd)
      (hfield hfd h room)
    simp only [format_read, read_object, List.foldl_append, List.foldl_cons, hfill]
  | @position _ before after name s d d' hs h =>
    rw [List.getElem?_map] at hs
    rw [format_read, format_read, Record.read, Record.read, toOption_bind, toOption_bind]
    congr 1
    funext room
    refine readItems_toOption before after 0 r.fields (fun fd hfd u => ?_) r.blank
    rw [hfd] at hs
    cases hs
    exact hfield (List.mem_of_getElem? hfd) h room u

end Record

/-! ### Texts -/

/-- **What a text is decoded to depends on the known members only.** -/
structure Format.DependsOnKnown (f : Format α) (s : Shape) : Prop where
  /-- Every text that is decoded follows the rules of the grammar. -/
  text : ∀ text a, f.decode text = .ok a → ∃ d : Document, d.Text text
  /-- Whatever edits turn its document into another one, the other one has texts as well. -/
  written : ∀ (d d' : Document) text, d.Text text →
    Relation.ReflTransGen (Edit s) d d' → ∃ text', d'.Text text'
  /-- All these texts are decoded to the same value, and to none if the first one is not. -/
  edited : ∀ (d d' : Document) text text', d.Text text → d'.Text text' →
    Relation.ReflTransGen (Edit s) d d' → ∀ a, f.decode text = .ok a ↔ f.decode text' = .ok a

/-- **A lenient format** is strict with what it reads and overlooks edits. -/
structure Format.Lenient (f : Format α) (s : Shape) : Prop where
  strict : f.Strict
  overlooks : f.Overlooks s

theorem Format.Lenient.dependsOnKnown (hf : f.Lenient s) : f.DependsOnKnown s where
  text _ _ h := hf.strict.text h
  written _ _ _ h hedits := Edit.exists_text h hedits
  edited d d' text text' h h' hedits a := by
    have hread : (f.read depthLimit d).toOption = (f.read depthLimit d').toOption := by
      clear h h'
      induction hedits with
      | refl => rfl
      | tail _ hstep ih => exact ih.trans (hf.overlooks hstep depthLimit)
    rw [decode_text h, decode_text h', ← toOption_eq_some_iff, ← toOption_eq_some_iff, hread]

/-- **The format of a record is lenient** if its fields are strict and fill different places, and
those that hold records overlook edits. -/
theorem Record.lenient {r : Record ρ} {inner : List (String × Shape)}
    (hstrict : ∀ fd ∈ r.fields, fd.Strict) (hapart : r.fields.Pairwise Field.Apart)
    (hnames : (r.fields.map Field.name).Nodup) (h : r.Holds inner) :
    r.format.Lenient (r.shape inner) :=
  ⟨Record.strict hstrict, Record.overlooks hapart hnames h⟩

end GceMachines.Json
