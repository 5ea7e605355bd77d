import GceMachines.Json.Record
import GceMachines.Proofs.Json.Grammar

/-!
# What is read is well written

A number or a string of a text has a value only if it is well written, and every format goes through
its document to the end. So whatever a format reads shows nothing wrong to whoever passes over it,
and a text that is decoded follows the rules of the grammar.

* `Document.Sound`: the tokens that have a value are well written.
* `sound_parse`: so they are in every document that is parsed.
* `Format.Strict`: what a format reads shows nothing wrong.
* `strict_list`, `strict_map`, …, `Record.strict`: the formats.
* `Format.Strict.text`: a text that is decoded follows the rules.
-/

namespace GceMachines.Json

/-! ### Sound documents -/

/-- **A token that has a value is well written.** -/
def Token.Sound {α : Type} (t : Token α) : Prop := ∀ a, t.value = .ok a → t.skip = .ok ()

mutual

/-- **The tokens of a document that have a value are well written.** -/
def Document.Sound : Document → Prop
  | .number t => t.Sound
  | .string t => t.Sound
  | .array is => is.Sound
  | .object ms => ms.Sound
  | _ => True

/-- The tokens of the items are. -/
def Items.Sound : Items → Prop
  | .close _ => True
  | .item d is => d.Sound ∧ is.Sound

/-- The tokens of the members are. -/
def Members.Sound : Members → Prop
  | .close _ => True
  | .noKey _ => True
  | .member k d ms => k.Sound ∧ d.Sound ∧ ms.Sound

end

variable {α ρ : Type} {bs : List UInt8} {fuel : Nat}

theorem sound_numberToken (bs : List UInt8) : (numberToken bs).1.Sound := by
  intro n h
  unfold numberToken at h ⊢
  cases hnumeral : numeral bs with
  | error f =>
    rw [hnumeral] at h
    cases h
  | ok r => rfl

theorem skip_of_bytesOf {ending : Ending} {ps : List Part} {bytes : List UInt8}
    (h : bytesOf ending ps = .ok bytes) : ending.skip = .ok () := by
  have hmap {x : Except Fault (List UInt8)} {g : List UInt8 → List UInt8} {bytes : List UInt8}
      (h : x.map g = .ok bytes) : ∃ bytes', x = .ok bytes' := by
    cases x with
    | error _ => cases h
    | ok bytes' => exact ⟨bytes', rfl⟩
  fun_induction bytesOf ending ps generalizing bytes with
  | case1 =>
    cases hskip : ending.skip with
    | error f =>
      rw [hskip] at h
      cases h
    | ok _ => rfl
  | case2 _ _ ih | case3 _ _ ih | case5 _ _ _ _ _ _ ih | case9 _ _ _ _ ih =>
    obtain ⟨bytes', h⟩ := hmap h
    exact ih h
  | case4 | case6 | case7 | case8 => cases h

theorem sound_stringToken (bs : List UInt8) : (stringToken bs).1.Sound := by
  intro s h
  have hvalue : (scan bs).value = .ok s := h
  unfold Literal.value at hvalue
  cases hbytes : bytesOf (scan bs).ending (scan bs).parts with
  | error f =>
    rw [hbytes] at hvalue
    cases hvalue
  | ok bytes => exact skip_of_bytesOf hbytes

theorem sound_scalar (b : UInt8) (bs : List UInt8) : (scalar b bs).1.Sound := by
  have hword (d : Document) (hd : d.Sound) (word : List UInt8) :
      (wordDocument d word bs).1.Sound := by
    unfold wordDocument
    split
    · exact hd
    · trivial
  unfold scalar
  split
  · exact hword .null trivial _
  split
  · exact hword (.bool true) trivial _
  split
  · exact hword (.bool false) trivial _
  split
  · exact sound_stringToken bs
  split
  · exact sound_numberToken _
  · trivial

theorem items_cases (fuel : Nat) (first : Bool) (bs : List UInt8) :
    (∃ how r, items (fuel + 1) first bs = (.close how, r)) ∨
      ∃ text, items (fuel + 1) first bs = readItem fuel text := by
  rw [items]
  split
  · exact .inl ⟨_, _, rfl⟩
  split
  · exact .inl ⟨_, _, rfl⟩
  split
  · exact .inr ⟨_, rfl⟩
  split
  · split
    · exact .inl ⟨_, _, rfl⟩
    split
    · exact .inl ⟨_, _, rfl⟩
    · exact .inr ⟨_, rfl⟩
  · exact .inl ⟨_, _, rfl⟩

theorem members_cases (fuel : Nat) (first : Bool) (bs : List UInt8) :
    (∃ how r, members (fuel + 1) first bs = (.close how, r)) ∨
      ∃ text, members (fuel + 1) first bs = firstMember fuel text := by
  rw [members]
  split
  · exact .inl ⟨_, _, rfl⟩
  · next b rest _ =>
    split
    · exact .inl ⟨_, _, rfl⟩
    split
    · exact .inr ⟨b :: rest, rfl⟩
    split
    · split
      · exact .inl ⟨_, _, rfl⟩
      · next c r _ =>
        split
        · exact .inl ⟨_, _, rfl⟩
        · exact .inr ⟨c :: r, rfl⟩
    · exact .inl ⟨_, _, rfl⟩

/-- **What the readers make of a text with so much fuel** is sound. -/
structure ReadsSound (fuel : Nat) : Prop where
  value : ∀ bs, (value fuel bs).1.Sound
  items : ∀ first bs, (items fuel first bs).1.Sound
  members : ∀ first bs, (members fuel first bs).1.Sound

theorem ReadsSound.readItem (h : ReadsSound fuel) (bs : List UInt8) :
    (readItem fuel bs).1.Sound := by
  have hfirst := h.value bs
  unfold Json.readItem
  split
  · next hv =>
    rw [hv] at hfirst
    exact ⟨hfirst, trivial⟩
  · next rest hv =>
    rw [hv] at hfirst
    exact ⟨hfirst, h.items false rest⟩

theorem ReadsSound.readMember (h : ReadsSound fuel) {k : Token String} (hk : k.Sound)
    (bs : List UInt8) : (readMember fuel k bs).1.Sound := by
  have hfirst := h.value bs
  unfold Json.readMember
  split
  · next hv =>
    rw [hv] at hfirst
    exact ⟨hk, hfirst, trivial⟩
  · next rest hv =>
    rw [hv] at hfirst
    exact ⟨hk, hfirst, h.members false rest⟩

theorem ReadsSound.firstMember (h : ReadsSound fuel) (bs : List UInt8) :
    (firstMember fuel bs).1.Sound := by
  cases bs with
  | nil => trivial
  | cons q bs =>
    have hkey := sound_stringToken bs
    rw [Json.firstMember]
    split
    · split
      · next hk =>
        rw [hk] at hkey
        exact ⟨hkey, trivial, trivial⟩
      · next hk =>
        rw [hk] at hkey
        split
        · exact ⟨hkey, trivial, trivial⟩
        · split
          · exact h.readMember hkey _
          · exact ⟨hkey, trivial, trivial⟩
    · trivial

theorem readsSound (fuel : Nat) : ReadsSound fuel := by
  induction fuel with
  | zero => exact ⟨fun _ => trivial, fun _ _ => trivial, fun _ _ => trivial⟩
  | succ fuel ih =>
    constructor
    case value =>
      intro bs
      rw [value]
      split
      · trivial
      · next b rest _ =>
        split
        · exact ih.items true rest
        split
        · exact ih.members true rest
        · exact sound_scalar b rest
    case items =>
      intro first bs
      rcases items_cases fuel first bs with ⟨how, r, hclose⟩ | ⟨text, hitem⟩
      · rw [hclose]
        trivial
      · rw [hitem]
        exact ih.readItem text
    case members =>
      intro first bs
      rcases members_cases fuel first bs with ⟨how, r, hclose⟩ | ⟨text, hmember⟩
      · rw [hclose]
        trivial
      · rw [hmember]
        exact ih.firstMember text

/-- **A document that is parsed is sound.** -/
theorem sound_parse (bs : List UInt8) : (parse bs).1.Sound := (readsSound _).value bs

/-! ### Strict formats -/

/-- **A strict format**: what it reads shows nothing wrong. -/
def Format.Strict (f : Format α) : Prop :=
  ∀ ⦃room d a⦄, d.Sound → f.read room d = .ok a → d.skip = .ok ()

/-- What a field reads shows nothing wrong. -/
def Field.Strict (fd : Field ρ) : Prop :=
  ∀ ⦃room d u v⦄, d.Sound → fd.read room d u = .ok v → d.skip = .ok ()

theorem exists_of_bind {β : Type} {x : Except Fault α} {g : α → Except Fault β} {b : β}
    (h : x.bind g = .ok b) : ∃ a, x = .ok a ∧ g a = .ok b := by
  cases x with
  | error _ => cases h
  | ok a => exact ⟨a, rfl, h⟩

theorem exists_of_map {β : Type} {x : Except Fault α} {g : α → β} {b : β}
    (h : x.map g = .ok b) : ∃ a, x = .ok a ∧ g a = b := by
  cases x with
  | error _ => cases h
  | ok a => exact ⟨a, rfl, Except.ok.inj h⟩

theorem ArrayClose.skip_of_ending {how : ArrayClose} (h : how.ending = .ok ()) :
    how.skip = .ok () := by
  cases how with
  | closed => rfl
  | _ => cases h

theorem ObjectClose.skip_of_ending {how : ObjectClose} (h : how.ending = .ok ()) :
    how.skip = .ok () := by
  cases how with
  | closed => rfl
  | _ => cases h

theorem Items.skip_of_item {d : Document} {is : Items} (hd : d.skip = .ok ())
    (his : is.skip = .ok ()) : (Items.item d is).skip = .ok () := by
  rw [Items.skip, hd]
  exact his

theorem Members.skip_of_member {k : Token String} {d : Document} {ms : Members}
    (hk : k.skip = .ok ()) (hd : d.skip = .ok ()) (hms : ms.skip = .ok ()) :
    (Members.member k d ms).skip = .ok () := by
  rw [Members.skip, hk, hd]
  exact hms

namespace Format

variable {f : Format α}

@[simp]
theorem strict_bool : bool.Strict := by
  intro room d b _ h
  cases d with
  | bool b => rfl
  | _ => cases h

@[simp]
theorem strict_string : string.Strict := by
  intro room d s hd h
  cases d with
  | string t => exact hd s h
  | _ => cases h

theorem skip_of_readInt {low high n : Int} {expected : String} {d : Document} (hd : d.Sound)
    (h : readInt low high expected d = .ok n) : d.skip = .ok () := by
  cases d with
  | number t =>
    obtain ⟨m, hm, -⟩ := exists_of_bind h
    exact hd m hm
  | _ => cases h

@[simp]
theorem strict_int64 : int64.Strict := by
  intro room d n hd h
  obtain ⟨m, hm, -⟩ := exists_of_map h
  exact skip_of_readInt hd hm

@[simp]
theorem strict_int32 : int32.Strict := by
  intro room d n hd h
  obtain ⟨m, hm, -⟩ := exists_of_map h
  exact skip_of_readInt hd hm

@[simp]
theorem strict_option (hf : f.Strict) : f.option.Strict := by
  intro room d a hd h
  cases d with
  | null => rfl
  | _ =>
    obtain ⟨b, hb, -⟩ := exists_of_map h
    exact hf hd hb

theorem skip_of_readItems {read : Document → Except Fault α}
    (hread : ∀ ⦃d a⦄, d.Sound → read d = .ok a → d.skip = .ok ()) :
    ∀ (is : Items) (as : List α), is.Sound → readItems read is = .ok as → is.skip = .ok ()
  | .close how, as, _, h => by
    obtain ⟨_, hend, -⟩ := exists_of_map h
    exact how.skip_of_ending hend
  | .item d is, as, hs, h => by
    obtain ⟨a, ha, h⟩ := exists_of_bind h
    obtain ⟨as', has, -⟩ := exists_of_map h
    exact Items.skip_of_item (hread hs.1 ha) (skip_of_readItems hread is as' hs.2 has)

@[simp]
theorem strict_list (hf : f.Strict) : f.list.Strict := by
  intro room d as hd h
  cases d with
  | array is =>
    obtain ⟨room', -, h⟩ := exists_of_bind h
    exact skip_of_readItems (fun d a => @hf room' d a) is as hd h
  | _ => cases h

theorem skip_of_readEntries {read : Document → Except Fault α}
    (hread : ∀ ⦃d a⦄, d.Sound → read d = .ok a → d.skip = .ok ()) :
    ∀ (ms : Members) (es : List (String × α)), ms.Sound → readEntries read ms = .ok es →
      ms.skip = .ok ()
  | .close how, es, _, h => by
    obtain ⟨_, hend, -⟩ := exists_of_map h
    exact how.skip_of_ending hend
  | .member k d ms, es, hs, h => by
    obtain ⟨name, hname, h⟩ := exists_of_bind h
    obtain ⟨a, ha, h⟩ := exists_of_bind h
    obtain ⟨es', hes, -⟩ := exists_of_map h
    exact Members.skip_of_member (hs.1 name hname) (hread hs.2.1 ha)
      (skip_of_readEntries hread ms es' hs.2.2 hes)

@[simp]
theorem strict_map (hf : f.Strict) : f.map.Strict := by
  intro room d m hd h
  cases d with
  | object ms =>
    obtain ⟨room', -, h⟩ := exists_of_bind h
    obtain ⟨es, hes, -⟩ := exists_of_map h
    exact skip_of_readEntries (fun d a => @hf room' d a) ms es hd hes
  | _ => cases h

mutual

theorem skip_of_readAny : ∀ (d : Document) (room : Nat) (j : Json), d.Sound →
    readAny room d = .ok j → d.skip = .ok ()
  | .null, _, _, _, _ => rfl
  | .bool _, _, _, _, _ => rfl
  | .number t, _, _, hd, h => by
    obtain ⟨n, hn, -⟩ := exists_of_map h
    exact hd n hn
  | .string t, _, _, hd, h => by
    obtain ⟨s, hs, -⟩ := exists_of_map h
    exact hd s hs
  | .array is, _, _, hd, h => by
    obtain ⟨room', -, h⟩ := exists_of_bind h
    obtain ⟨js, hjs, -⟩ := exists_of_map h
    exact skip_of_readAnyItems is room' js hd hjs
  | .object ms, _, _, hd, h => by
    obtain ⟨room', -, h⟩ := exists_of_bind h
    obtain ⟨es, hes, -⟩ := exists_of_map h
    exact skip_of_readAnyMembers ms room' es hd hes

theorem skip_of_readAnyItems : ∀ (is : Items) (room : Nat) (js : List Json), is.Sound →
    readAnyItems room is = .ok js → is.skip = .ok ()
  | .close how, _, _, _, h => by
    obtain ⟨_, hend, -⟩ := exists_of_map h
    exact how.skip_of_ending hend
  | .item d is, room, _, hs, h => by
    obtain ⟨j, hj, h⟩ := exists_of_bind h
    obtain ⟨js, hjs, -⟩ := exists_of_map h
    exact Items.skip_of_item (skip_of_readAny d room j hs.1 hj)
      (skip_of_readAnyItems is room js hs.2 hjs)

theorem skip_of_readAnyMembers : ∀ (ms : Members) (room : Nat) (es : List (String × Json)),
    ms.Sound → readAnyMembers room ms = .ok es → ms.skip = .ok ()
  | .close how, _, _, _, h => by
    obtain ⟨_, hend, -⟩ := exists_of_map h
    exact how.skip_of_ending hend
  | .member k d ms, room, _, hs, h => by
    obtain ⟨name, hname, h⟩ := exists_of_bind h
    obtain ⟨j, hj, h⟩ := exists_of_bind h
    obtain ⟨es, hes, -⟩ := exists_of_map h
    exact Members.skip_of_member (hs.1 name hname) (skip_of_readAny d room j hs.2.1 hj)
      (skip_of_readAnyMembers ms room es hs.2.2 hes)

end

@[simp]
theorem strict_decimal64 : decimal64.Strict := by
  intro room d n hd h
  obtain ⟨j, hj, -⟩ := exists_of_bind h
  exact skip_of_readAny d room j hd hj

@[simp]
theorem strict_unitEnum {name : α → String} {ofName : String → Except Fault α} :
    (unitEnum name ofName).Strict := by
  intro room d a hd h
  cases d with
  | string t =>
    obtain ⟨s, hs, -⟩ := exists_of_bind h
    exact hd s hs
  | object ms =>
    obtain ⟨room', -, h⟩ := exists_of_bind h
    cases ms with
    | member k v rest =>
      obtain ⟨b, hb, h⟩ := exists_of_bind h
      obtain ⟨s, hs, -⟩ := exists_of_bind hb
      cases v with
      | null =>
        refine Members.skip_of_member (hd.1 s hs) rfl ?_
        cases rest with
        | close how =>
          cases how with
          | closed => rfl
          | _ => cases h
        | _ => cases h
      | _ => cases h
    | close how => cases how <;> cases h
    | noKey d => cases h
  | missing f => cases f <;> cases h
  | _ => cases h

end Format

/-! ### Strict records -/

namespace Field

variable {hide : α → Bool} {name : String} {f : Format α}

/-! All kinds of fields leave out some values when they are written, and are read alike. -/

@[simp]
theorem always_eq {get : ρ → α} {set : ρ → α → ρ} :
    always name f get set = omitting (fun _ => false) name f get set := rfl

@[simp]
theorem ifAny_eq {get : ρ → Option α} {set : ρ → Option α → ρ} :
    ifAny name f get set = omitting Option.isNone name f.option get set := rfl

@[simp]
theorem ifText_eq {get : ρ → String} {set : ρ → String → ρ} :
    ifText name get set = omitting String.isEmpty name .string get set := rfl

@[simp]
theorem ifItems_eq {get : ρ → List α} {set : ρ → List α → ρ} :
    ifItems name f get set = omitting List.isEmpty name f.list get set := rfl

@[simp]
theorem ifEntries_eq {get : ρ → SortedMap String α} {set : ρ → SortedMap String α → ρ} :
    ifEntries name f get set = omitting SortedMap.isEmpty name f.map get set := rfl

@[simp]
theorem strict_omitting {get : ρ → α} {set : ρ → α → ρ} (hf : f.Strict) :
    (omitting hide name f get set).Strict := by
  intro room d u v hd h
  obtain ⟨a, ha, -⟩ := exists_of_map h
  exact hf hd ha

@[simp]
theorem strict_needed {fd : Field ρ} : fd.needed.Strict ↔ fd.Strict := Iff.rfl

end Field

namespace Record

variable {r : Record ρ}

theorem skip_of_readMembers (hfields : ∀ fd ∈ r.fields, fd.Strict) {room : Nat} :
    ∀ (ms : Members) (met : List String) (u : ρ) (s : List String × ρ), ms.Sound →
      r.readMembers room ms met u = .ok s → ms.skip = .ok ()
  | .close how, _, _, _, _, h => by
    obtain ⟨_, hend, -⟩ := exists_of_map h
    exact how.skip_of_ending hend
  | .member k d ms, met, u, s, hs, h => by
    obtain ⟨name, hname, h⟩ := exists_of_bind h
    have hk := hs.1 name hname
    cases hfd : r.field? name with
    | none =>
      rw [hfd] at h
      obtain ⟨_, hd, h⟩ := exists_of_bind h
      exact Members.skip_of_member hk hd (skip_of_readMembers hfields ms met u s hs.2.2 h)
    | some fd =>
      rw [hfd] at h
      dsimp only at h
      split at h
      · cases h
      · obtain ⟨v, hv, h⟩ := exists_of_bind h
        have hstrict := hfields fd (List.mem_of_find?_eq_some hfd)
        exact Members.skip_of_member hk (hstrict hs.2.1 hv)
          (skip_of_readMembers hfields ms (name :: met) v s hs.2.2 h)

theorem skip_of_readItems {room : Nat} : ∀ (is : Items) (n : Nat) (fds : List (Field ρ)) (u v : ρ),
    (∀ fd ∈ fds, fd.Strict) → is.Sound → r.readItems room n fds is u = .ok v → is.skip = .ok ()
  | .close how, n, fds, u, v, hfields, hs, h => by
    cases fds with
    | nil =>
      cases how with
      | closed => rfl
      | _ => cases h
    | cons fd fds =>
      obtain ⟨_, hend, -⟩ := exists_of_bind h
      exact how.skip_of_ending hend
  | .item d is, n, fds, u, v, hfields, hs, h => by
    cases fds with
    | nil => cases h
    | cons fd fds =>
      obtain ⟨w, hw, h⟩ := exists_of_bind h
      exact Items.skip_of_item (hfields fd (.head _) hs.1 hw)
        (skip_of_readItems is (n + 1) fds w v (fun fd hfd => hfields fd (.tail _ hfd)) hs.2 h)

/-- **The format of a record is strict** if its fields are. -/
theorem strict (hfields : ∀ fd ∈ r.fields, fd.Strict) : r.format.Strict := by
  intro room d v hd h
  cases d with
  | object ms =>
    obtain ⟨room', -, h⟩ := exists_of_bind h
    obtain ⟨s, hs, -⟩ := exists_of_bind h
    exact skip_of_readMembers hfields ms [] r.blank s hd hs
  | array is =>
    obtain ⟨room', -, h⟩ := exists_of_bind h
    exact skip_of_readItems is 0 r.fields r.blank v hfields hd h
  | _ => cases h

end Record

/-! ### Texts -/

/-- **A text that is decoded follows the rules** of the grammar. -/
theorem Format.Strict.text {f : Format α} (hf : f.Strict) {text : List UInt8} {a : α}
    (h : f.decode text = .ok a) : ∃ d : Document, d.Text text := by
  unfold Format.decode Json.decode at h
  have hsound := sound_parse text
  have hspelt : (parse text).1.skip = .ok () → _ := spelt_of_parse
  cases hparse : parse text with
  | mk d r =>
    rw [hparse] at h hsound hspelt
    obtain ⟨b, hread, h⟩ := exists_of_bind h
    obtain ⟨front, rest, rfl, htext, hfront⟩ := hspelt (hf hsound hread)
    refine ⟨d, front, rest, htext, hfront, ?_⟩
    cases hrest : rest.all isSpace with
    | true => exact List.all_eq_true.mp hrest
    | false =>
      dsimp only [Option.getD_some] at h
      rw [hrest] at h
      cases h

end GceMachines.Json
