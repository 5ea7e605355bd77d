import GceMachines.Json.Record
import GceMachines.Proofs.Json.Format

/-!
# Records that are read back

Reading a record starts from a blank one. Going through the fields in order, a member that was
written has to set its field to what was written, and a field that was left out must already hold
the right value. If this leads from the blank record to the one that was written, for every record,
the format of the record is faithful. A field that is left out when it is empty therefore asks for
one thing only: that the blank record has it empty.

* `Field.Takes`: what a field makes of a member, or of the lack of it.
* `Fills`: members in order, leading from one record to another.
* `Record.readsBack`, `Record.faithful`: a record whose members lead back to it is read back.
* `Fills.always`, `Fills.ifAny`, …: the kinds of fields.
-/

namespace GceMachines.Json

variable {α ρ : Type} {depth : Nat} {u u' v w : ρ}

/-! ### Members and what they fill -/

/-- The members that are written, under the names of their fields. -/
def written (ms : List (Field ρ × Option Json)) : List (String × Json) :=
  ms.filterMap fun m => m.2.map fun j => (m.1.name, j)

/-- **What a field makes of a record**: a member that is written turns it into another one; without
one the record stays as it is, unless the field must not be missing. -/
def Field.Takes (fd : Field ρ) (depth : Nat) : Option Json → ρ → ρ → Prop
  | some j, u, u' =>
    j.Exact ∧ ∀ room, depth < room → fd.read room (.ofJson j) u = Except.ok u'
  | none, u, u' => fd.presence ≠ .required ∧ u' = u

/-- **Members in order fill a record**, which leads to another one. -/
inductive Fills (depth : Nat) : List (Field ρ × Option Json) → ρ → ρ → Prop
  | nil (u : ρ) : Fills depth [] u u
  | cons {fd : Field ρ} {j : Option Json} {ms : List (Field ρ × Option Json)} {u u' u'' : ρ} :
    fd.Takes depth j u u' → Fills depth ms u' u'' → Fills depth ((fd, j) :: ms) u u''

variable {ms : List (Field ρ × Option Json)}

theorem Fills.exactMembers (h : Fills depth ms u v) : ExactMembers (written ms) := by
  induction h with
  | nil => exact trivial
  | @cons fd j _ _ _ _ htakes _ ih =>
    cases j with
    | none => exact ih
    | some j => exact ⟨htakes.1, ih⟩

/-! ### Reading the members -/

namespace Record

variable {r : Record ρ}

theorem field?_name (hnames : (r.fields.map Field.name).Nodup) {fd : Field ρ}
    (hfd : fd ∈ r.fields) : r.field? fd.name = some fd := by
  unfold field?
  obtain ⟨before, after, hsplit⟩ := List.append_of_mem hfd
  have hbefore : ∀ fd' ∈ before, fd'.name ≠ fd.name := by
    rw [hsplit, List.map_append, List.nodup_append] at hnames
    exact fun fd' hfd' => hnames.2.2 _ (List.mem_map_of_mem hfd') _ (.head _)
  have hnone : before.find? (fun fd' => fd'.name = fd.name) = none :=
    List.find?_eq_none.mpr fun fd' hfd' => by simpa using hbefore fd' hfd'
  rw [hsplit, List.find?_append, hnone]
  simp

/-- **Members that lead from one record to another are read so**, and what must not be missing has
been met. -/
theorem readMembers_written {room : Nat} (h : Fills depth ms u v) (hroom : depth < room)
    (hfind : ∀ m ∈ ms, r.field? m.1.name = some m.1)
    (hnames : (ms.map fun m => m.1.name).Nodup) (met : List String)
    (hnew : ∀ m ∈ ms, m.1.name ∉ met) :
    ∃ met', r.readMembers room (.ofJson (written ms)) met u = Except.ok (met', v) ∧ met ⊆ met' ∧
      ∀ m ∈ ms, m.1.presence = .required → m.1.name ∈ met' := by
  induction h generalizing met with
  | nil u => exact ⟨met, rfl, List.Subset.refl _, nofun⟩
  | @cons fd j ms u u' u'' htakes _ ih =>
    obtain ⟨hfresh, hnodup⟩ := List.nodup_cons.mp hnames
    have hfind' : ∀ m ∈ ms, r.field? m.1.name = some m.1 := fun m hm => hfind m (.tail _ hm)
    cases j with
    | none =>
      -- the field is not met, and does not have to be
      obtain ⟨hoptional, rfl⟩ := htakes
      obtain ⟨met', hread, hsub, hmet⟩ := ih hfind' hnodup met fun m hm => hnew m (.tail _ hm)
      refine ⟨met', hread, hsub, fun m hm hrequired => ?_⟩
      rcases List.mem_cons.mp hm with rfl | hm
      · exact absurd hrequired hoptional
      · exact hmet m hm hrequired
    | some j =>
      -- no later member has the name that is met now, or one that was met before
      have hnew' : ∀ m ∈ ms, m.1.name ∉ fd.name :: met := by
        intro m hm hmem
        rcases List.mem_cons.mp hmem with he | hmem
        · exact hfresh (List.mem_map.mpr ⟨m, hm, he⟩)
        · exact hnew m (.tail _ hm) hmem
      obtain ⟨met', hread, hsub, hmet⟩ := ih hfind' hnodup (fd.name :: met) hnew'
      refine ⟨met', ?_, fun n hn => hsub (.tail _ hn), fun m hm hrequired => ?_⟩
      · show r.readMembers room (.member ⟨.ok fd.name, .ok ()⟩ (.ofJson j) _) met u = _
        rw [readMembers]
        dsimp only [Except.bind]
        rw [hfind _ (.head _)]
        dsimp only
        rw [if_neg (hnew _ (.head _)), htakes.2 room hroom]
        exact hread
      · rcases List.mem_cons.mp hm with rfl | hm
        · exact hsub (.head _)
        · exact hmet m hm hrequired

/-- **A record is read from members that lead to it** from the blank one. -/
theorem read_written (hfields : ms.map Prod.fst = r.fields)
    (hnames : (r.fields.map Field.name).Nodup) (h : Fills depth ms r.blank v) {room : Nat}
    (hroom : depth + 1 < room) : r.read room (.ofJson (.object (written ms))) = Except.ok v := by
  have hmem : ∀ m ∈ ms, m.1 ∈ r.fields := fun m hm => hfields ▸ List.mem_map_of_mem hm
  have hnodup : (ms.map fun m => m.1.name).Nodup := by
    rw [← hfields, List.map_map] at hnames
    exact hnames
  have hinside : depth < room - 1 := by omega
  obtain ⟨met, hread, -, hmet⟩ := readMembers_written h hinside
    (fun m hm => field?_name hnames (hmem m hm)) hnodup [] fun _ _ => List.not_mem_nil
  have hmissing : r.missing? met = none := by
    refine List.find?_eq_none.mpr fun fd hfd => ?_
    rw [← hfields] at hfd
    obtain ⟨m, hm, rfl⟩ := List.mem_map.mp hfd
    simpa using hmet m hm
  rw [Document.ofJson, Record.read, Format.enter_of_lt hroom]
  dsimp only [Except.bind]
  rw [hread]
  dsimp only
  rw [hmissing]

/-- **A record is read back** if the members written for it always lead to it. -/
theorem readsBack (members : ρ → List (Field ρ × Option Json))
    (hfields : ∀ v, (members v).map Prod.fst = r.fields)
    (hnames : (r.fields.map Field.name).Nodup)
    (h : ∀ v, Fills depth (members v) r.blank v) :
    r.format.ReadsBack (depth + 1) fun v => .object (written (members v)) :=
  ⟨fun v => (h v).exactMembers, fun v _ hroom => read_written (hfields v) hnames (h v) hroom⟩

/-- The members of a record as its fields write them. -/
def members (r : Record ρ) (v : ρ) : List (Field ρ × Option Json) :=
  r.fields.map fun fd => (fd, fd.write v)

theorem write_eq (r : Record ρ) : r.write = fun v => .object (written (r.members v)) := by
  funext v
  unfold write written members
  rw [List.filterMap_map]
  rfl

/-- **The format of a record is faithful** if what its fields write leads to it. -/
theorem faithful (hnames : (r.fields.map Field.name).Nodup)
    (h : ∀ v, Fills depth (r.members v) r.blank v) : r.format.Faithful (depth + 1) := by
  have hback := readsBack r.members (fun v => List.map_map.trans (List.map_id _)) hnames h
  rw [← write_eq] at hback
  exact hback

theorem neverNull (r : Record ρ) : Format.NeverNull r.format.write := fun _ => nofun

end Record

/-! ### Kinds of fields -/

variable {f : Format α} {json : α → Json} {name : String} {get : ρ → α} {set : ρ → α → ρ}

theorem Field.takes_omitting (hf : f.ReadsBack depth json) (hide : α → Bool) (a : α)
    (hu : hide a = true → set u a = u) :
    (Field.omitting hide name f get set).Takes depth (if hide a then none else some (json a)) u
      (set u a) := by
  cases hh : hide a with
  | true => exact ⟨nofun, hu hh⟩
  | false =>
    refine ⟨hf.isExact a, fun room hroom => ?_⟩
    show (f.read room (.ofJson (json a))).map (set u) = _
    rw [hf.read_ofJson a room hroom]
    rfl

theorem Field.takes_ifAny {get : ρ → Option α} {set : ρ → Option α → ρ}
    (hf : f.ReadsBack depth json) (hn : Format.NeverNull json) (hu : set u none = u)
    (a : Option α) : (Field.ifAny name f get set).Takes depth (a.map json) u (set u a) := by
  cases a with
  | none => exact ⟨nofun, hu⟩
  | some a =>
    refine ⟨hf.isExact a, fun room hroom => ?_⟩
    show (f.option.read room (.ofJson (Format.orNull json (some a)))).map (set u) = _
    rw [(Format.readsBack_option hf hn).read_ofJson (some a) room hroom]
    rfl

theorem Field.write_ifAny {get : ρ → Option α} {set : ρ → Option α → ρ} :
    (Field.ifAny name f get set).write v = (get v).map f.write := by
  show (if (get v).isNone then none else some (f.option.write (get v))) = _
  cases get v <;> rfl

theorem Field.takes_always (hf : f.Faithful depth) : (Field.always name f get set).Takes depth
    ((Field.always name f get set).write v) u (set u (get v)) :=
  Field.takes_omitting hf (fun _ => false) (get v) nofun

namespace Fills

theorem always (hf : f.Faithful depth) (h : Fills depth ms (set u (get v)) w) :
    Fills depth ((.always name f get set, (Field.always name f get set).write v) :: ms) u w :=
  .cons (Field.takes_always hf) h

theorem needed (hf : f.Faithful depth) (h : Fills depth ms (set u (get v)) w) :
    Fills depth (((Field.always name f get set).needed,
      (Field.always name f get set).needed.write v) :: ms) u w := by
  have htakes : (Field.always name f get set).Takes depth
    ((Field.always name f get set).write v) u (set u (get v)) := Field.takes_always hf
  exact .cons htakes h

theorem ifAny {get : ρ → Option α} {set : ρ → Option α → ρ} (hf : f.Faithful depth)
    (hn : Format.NeverNull f.write) (hu : set u none = u) (h : Fills depth ms (set u (get v)) w) :
    Fills depth ((.ifAny name f get set, (Field.ifAny name f get set).write v) :: ms) u w := by
  rw [Field.write_ifAny]
  exact .cons (Field.takes_ifAny hf hn hu (get v)) h

theorem ifText {get : ρ → String} {set : ρ → String → ρ} (hu : set u "" = u)
    (h : Fills depth ms (set u (get v)) w) :
    Fills depth ((.ifText name get set, (Field.ifText name get set).write v) :: ms) u w := by
  refine .cons (Field.takes_omitting Format.faithful_string String.isEmpty (get v) ?_) h
  intro hempty
  rw [String.isEmpty_iff.mp hempty]
  exact hu

theorem ifItems {get : ρ → List α} {set : ρ → List α → ρ} (hf : f.Faithful depth)
    (hu : set u [] = u) (h : Fills (depth + 1) ms (set u (get v)) w) :
    Fills (depth + 1) ((.ifItems name f get set, (Field.ifItems name f get set).write v) :: ms)
      u w := by
  refine .cons (Field.takes_omitting (Format.faithful_list hf) List.isEmpty (get v) ?_) h
  intro hempty
  rw [List.isEmpty_iff.mp hempty]
  exact hu

theorem ifEntries {get : ρ → SortedMap String α} {set : ρ → SortedMap String α → ρ}
    (hf : f.Faithful depth) (hu : set u .empty = u)
    (h : Fills (depth + 1) ms (set u (get v)) w) :
    Fills (depth + 1)
      ((.ifEntries name f get set, (Field.ifEntries name f get set).write v) :: ms) u w := by
  refine .cons (Field.takes_omitting (Format.faithful_map hf) SortedMap.isEmpty (get v) ?_) h
  intro hempty
  rw [SortedMap.eq_empty_of_isEmpty hempty]
  exact hu

end Fills

end GceMachines.Json
