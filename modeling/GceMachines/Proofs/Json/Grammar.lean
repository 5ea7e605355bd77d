import Mathlib.Data.List.DropRight
import Mathlib.Data.List.TakeWhile
import GceMachines.Proofs.Json.Tokens

/-!
# The grammar of texts

Rules say which texts are written for a document: its tokens in order, with any white space between
them. The three readers stand at a value, between the items of a list and between the members of an
object, and each is followed along a text of these rules. Every second step takes a byte, so twice
the length of the text is fuel enough. Conversely, a document that shows nothing wrong was read from
a text of these rules.

* `Document.Spelt`, `Items.Spelt`, `Members.Spelt`: the rules.
* `Document.Text`: a whole text, which may end in white space.
* `value_append`, `items_append`, `members_append`: a text of the rules is read in full.
* `ReadsSpelt`, `readsSpelt`: what is read without a fault follows the rules.
* `parse_append`, `spelt_of_parse`: both for whole texts.
-/

namespace GceMachines.Json

/-! ### The rules -/

/-- White space. -/
def Blank (gap : List UInt8) : Prop := ∀ b ∈ gap, isSpace b = true

mutual

/-- **A text of a document.** -/
inductive Document.Spelt : Document → List UInt8 → Prop
  | scalar {d : Document} {gap text : List UInt8} (hgap : Blank gap) (h : d.IsScalar text) :
    Document.Spelt d (gap ++ text)
  | array {is : Items} {gap text : List UInt8} (hgap : Blank gap) (h : Items.Spelt true is text) :
    Document.Spelt (.array is) (gap ++ 0x5B :: text)
  | object {ms : Members} {gap text : List UInt8} (hgap : Blank gap)
    (h : Members.Spelt true ms text) : Document.Spelt (.object ms) (gap ++ 0x7B :: text)

/-- **A text of the items of a list** up to its bracket, from before the first item or from behind
a later one. -/
inductive Items.Spelt : (first : Bool) → Items → List UInt8 → Prop
  | close {first : Bool} {gap : List UInt8} (hgap : Blank gap) :
    Items.Spelt first (.close .closed) (gap ++ [0x5D])
  | item {d : Document} {is : Items} {text rest : List UInt8} (hd : Document.Spelt d text)
    (h : Items.Spelt false is rest) : Items.Spelt true (.item d is) (text ++ rest)
  | comma {d : Document} {is : Items} {gap text : List UInt8} (hgap : Blank gap)
    (h : Items.Spelt true (.item d is) text) : Items.Spelt false (.item d is) (gap ++ 0x2C :: text)

/-- **A text of the members of an object** up to its brace, from before the first member or from
behind a later one. -/
inductive Members.Spelt : (first : Bool) → Members → List UInt8 → Prop
  | close {first : Bool} {gap : List UInt8} (hgap : Blank gap) :
    Members.Spelt first (.close .closed) (gap ++ [0x7D])
  | member {k : Token String} {d : Document} {ms : Members} {gap key gap' text rest : List UInt8}
    (hgap : Blank gap) (hk : IsString key k) (hgap' : Blank gap') (hd : Document.Spelt d text)
    (h : Members.Spelt false ms rest) :
    Members.Spelt true (.member k d ms) (gap ++ (key ++ (gap' ++ 0x3A :: (text ++ rest))))
  | comma {k : Token String} {d : Document} {ms : Members} {gap text : List UInt8}
    (hgap : Blank gap) (h : Members.Spelt true (.member k d ms) text) :
    Members.Spelt false (.member k d ms) (gap ++ 0x2C :: text)

end

/-- **A whole text of a document**, with white space at its end. -/
def Document.Text (d : Document) (text : List UInt8) : Prop :=
  ∃ front gap, text = front ++ gap ∧ d.Spelt front ∧ Blank gap

variable {b : UInt8} {bs gap rest text : List UInt8} {d : Document} {is : Items} {ms : Members}
  {k : Token String} {first : Bool} {fuel : Nat}

/-! ### White space -/

theorem blank_nil : Blank [] := nofun

theorem dropSpace_cons (h : isSpace b = false) (bs : List UInt8) :
    dropSpace (b :: bs) = b :: bs := by
  unfold dropSpace
  rw [List.dropWhile_cons_of_neg (by simp [h])]

theorem dropSpace_append (h : Blank gap) (bs : List UInt8) :
    dropSpace (gap ++ bs) = dropSpace bs :=
  List.dropWhile_append_of_pos h

theorem dropSpace_dropSpace (bs : List UInt8) : dropSpace (dropSpace bs) = dropSpace bs :=
  List.dropWhile_idempotent _ _

theorem exists_gap (bs : List UInt8) : ∃ gap, bs = gap ++ dropSpace bs ∧ Blank gap :=
  ⟨bs.takeWhile isSpace, List.takeWhile_append_dropWhile.symm, fun _ hb =>
    List.mem_takeWhile_imp hb⟩

theorem value_dropSpace (fuel : Nat) (bs : List UInt8) :
    value fuel (dropSpace bs) = value fuel bs := by
  cases fuel with
  | zero => rfl
  | succ fuel => rw [value, value, dropSpace_dropSpace]

theorem value_gap (h : Blank gap) (bs : List UInt8) : value fuel (gap ++ bs) = value fuel bs := by
  rw [← value_dropSpace, dropSpace_append h, value_dropSpace]

/-! ### The beginnings of texts -/

/-- A byte that begins a scalar: white space and brackets do not. -/
structure Begins (b : UInt8) : Prop where
  notSpace : isSpace b = false
  notClose : b ≠ 0x5D
  notOpen : b ≠ 0x5B
  notBrace : b ≠ 0x7B

/-- A text that does not close at once, behind white space. -/
def Opens (close : UInt8) (text : List UInt8) : Prop :=
  ∃ b bs, dropSpace text = b :: bs ∧ b ≠ close

theorem opens_cons {close : UInt8} (hb : isSpace b = false) (hclose : b ≠ close)
    (hgap : Blank gap) (bs : List UInt8) : Opens close (gap ++ b :: bs) :=
  ⟨b, bs, (dropSpace_append hgap _).trans (dropSpace_cons hb bs), hclose⟩

theorem scalar_number (h : (b == 0x2D || (digit? b).isSome) = true) :
    Begins b ∧ ∀ rest, scalar b rest =
      (.number (numberToken (b :: rest)).1, (numberToken (b :: rest)).2) := by
  have hne (x : UInt8) (hx : (x == 0x2D || (digit? x).isSome) = false) : b ≠ x := by
    rintro rfl
    rw [h] at hx
    cases hx
  have hspace : isSpace b = false := by
    simp [isSpace, hne 0x20 rfl, hne 0x09 rfl, hne 0x0A rfl, hne 0x0D rfl]
  refine ⟨⟨hspace, hne _ rfl, hne _ rfl, hne _ rfl⟩, fun rest => ?_⟩
  unfold scalar
  rw [if_neg (by simpa using hne 0x6E rfl), if_neg (by simpa using hne 0x74 rfl),
    if_neg (by simpa using hne 0x66 rfl), if_neg (by simpa using hne 0x22 rfl), if_pos h]

/-- **A scalar is taken in full**, if nothing goes on with it. -/
theorem scalar_append (h : d.IsScalar text) :
    ∃ b bs, text = b :: bs ∧ Begins b ∧
      ∀ rest, Delimits rest → scalar b (bs ++ rest) = (d, some rest) := by
  cases h with
  | null => exact ⟨0x6E, _, rfl, ⟨rfl, by decide, by decide, by decide⟩, fun _ _ => rfl⟩
  | true => exact ⟨0x74, _, rfl, ⟨rfl, by decide, by decide, by decide⟩, fun _ _ => rfl⟩
  | false => exact ⟨0x66, _, rfl, ⟨rfl, by decide, by decide, by decide⟩, fun _ _ => rfl⟩
  | number h =>
    obtain ⟨b, bs, rfl, hb⟩ := h.exists_cons
    obtain ⟨hbegins, hscalar⟩ := scalar_number hb
    refine ⟨b, bs, rfl, hbegins, fun rest hr => ?_⟩
    have hnumeral : numeral (b :: (bs ++ rest)) = _ := numeral_append h hr
    rw [hscalar, numberToken, hnumeral]
  | string h =>
    cases h with
    | quoted h =>
      refine ⟨0x22, _, rfl, ⟨rfl, by decide, by decide, by decide⟩, fun rest _ => ?_⟩
      show (Document.string (stringToken _).1, (stringToken _).2) = _
      rw [stringToken_append (.quoted h)]

theorem Document.Spelt.opens (h : d.Spelt text) (rest : List UInt8) :
    Opens 0x5D (text ++ rest) := by
  cases h with
  | scalar hgap h =>
    obtain ⟨b, bs, rfl, hb, -⟩ := scalar_append h
    rw [List.append_assoc]
    exact opens_cons hb.notSpace hb.notClose hgap _
  | array hgap _ | object hgap _ =>
    rw [List.append_assoc]
    exact opens_cons rfl (by decide) hgap _

theorem Document.Spelt.length_pos (h : d.Spelt text) : 0 < text.length := by
  obtain ⟨b, bs, htext, -⟩ := h.opens []
  cases text with
  | nil => cases htext
  | cons c cs => exact Nat.succ_pos _

theorem Items.Spelt.opens (h : (Items.item d is).Spelt true text) (rest : List UInt8) :
    Opens 0x5D (text ++ rest) := by
  cases h with
  | item hd _ =>
    rw [List.append_assoc]
    exact hd.opens _

theorem Members.Spelt.opens (h : (Members.member k d ms).Spelt true text) (rest : List UInt8) :
    Opens 0x7D (text ++ rest) := by
  cases h with
  | member hgap hk _ _ _ =>
    cases hk with
    | quoted hk =>
      rw [List.append_assoc]
      exact opens_cons rfl (by decide) hgap _

/-! ### What may follow a number -/

theorem delimits_cons (h : isSpace b = true ∨ b = 0x2C ∨ b = 0x5D ∨ b = 0x7D) (bs : List UInt8) :
    Delimits (b :: bs) := by
  rintro _ ⟨⟩
  rcases h with h | rfl | rfl | rfl
  · unfold isSpace at h
    simp only [Bool.or_eq_true, beq_iff_eq] at h
    rcases h with ((rfl | rfl) | rfl) | rfl <;> decide
  all_goals decide

theorem delimits_gap (hgap : Blank gap) (h : Delimits rest) : Delimits (gap ++ rest) := by
  cases gap with
  | nil => exact h
  | cons b gap => exact delimits_cons (.inl (hgap b (.head _))) _

theorem Items.Spelt.delimits (h : is.Spelt false text) (rest : List UInt8) :
    Delimits (text ++ rest) := by
  cases h with
  | close hgap | comma hgap _ =>
    rw [List.append_assoc]
    exact delimits_gap hgap (delimits_cons (by decide) _)

theorem Members.Spelt.delimits (h : ms.Spelt false text) (rest : List UInt8) :
    Delimits (text ++ rest) := by
  cases h with
  | close hgap | comma hgap _ =>
    rw [List.append_assoc]
    exact delimits_gap hgap (delimits_cons (by decide) _)

/-! ### The steps of the readers -/

theorem value_scalar (fuel : Nat) (hb : isSpace b = false) (hbracket : b ≠ 0x5B)
    (hbrace : b ≠ 0x7B) (rest : List UInt8) : value (fuel + 1) (b :: rest) = scalar b rest := by
  rw [value, dropSpace_cons hb]
  dsimp only
  rw [if_neg (by simpa using hbracket), if_neg (by simpa using hbrace)]

theorem value_array (fuel : Nat) (text : List UInt8) :
    value (fuel + 1) (0x5B :: text) =
      (.array (items fuel true text).1, (items fuel true text).2) := by
  rw [value, dropSpace_cons rfl]
  rfl

theorem value_object (fuel : Nat) (text : List UInt8) :
    value (fuel + 1) (0x7B :: text) =
      (.object (members fuel true text).1, (members fuel true text).2) := by
  rw [value, dropSpace_cons rfl]
  rfl

/-- An item and all further ones. -/
def readItem (fuel : Nat) (text : List UInt8) : Items × Option (List UInt8) :=
  match value fuel text with
  | (v, none) => (.item v (.close .cut), none)
  | (v, some rest) => (.item v (items fuel false rest).1, (items fuel false rest).2)

theorem items_close (fuel : Nat) (first : Bool) (rest : List UInt8) :
    items (fuel + 1) first (0x5D :: rest) = (.close .closed, some rest) := by
  rw [items, dropSpace_cons rfl]
  rfl

theorem items_item (fuel : Nat) (ht : Opens 0x5D text) :
    items (fuel + 1) true text = readItem fuel text := by
  obtain ⟨b, bs, htext, hb⟩ := ht
  have hvalue := value_dropSpace fuel text
  rw [htext] at hvalue
  rw [items, htext]
  dsimp only
  rw [if_neg (by simpa using hb), if_pos rfl, hvalue]
  rfl

theorem items_comma (fuel : Nat) (ht : Opens 0x5D text) :
    items fuel false (0x2C :: text) = items fuel true text := by
  obtain ⟨b, bs, htext, hb⟩ := ht
  have hbracket : ¬ (b == 0x5D) = true := by simpa using hb
  cases fuel with
  | zero => rfl
  | succ fuel =>
    rw [items, items, dropSpace_cons rfl, htext]
    dsimp only
    rw [htext, if_neg (by decide), if_neg (by decide), if_pos (by decide)]
    dsimp only
    rw [if_neg hbracket, if_neg hbracket, if_pos rfl]

/-- The value of a member with a key, and all further members. -/
def readMember (fuel : Nat) (k : Token String) (text : List UInt8) :
    Members × Option (List UInt8) :=
  match value fuel text with
  | (v, none) => (.member k v (.close .cut), none)
  | (v, some rest) => (.member k v (members fuel false rest).1, (members fuel false rest).2)

theorem members_close (fuel : Nat) (first : Bool) (rest : List UInt8) :
    members (fuel + 1) first (0x7D :: rest) = (.close .closed, some rest) := by
  rw [members, dropSpace_cons rfl]
  rfl

theorem members_gap (h : Blank gap) (bs : List UInt8) :
    members fuel first (gap ++ bs) = members fuel first bs := by
  cases fuel with
  | zero => rfl
  | succ fuel => rw [members, members, dropSpace_append h]

theorem items_gap (h : Blank gap) (bs : List UInt8) :
    items fuel first (gap ++ bs) = items fuel first bs := by
  cases fuel with
  | zero => rfl
  | succ fuel => rw [items, items, dropSpace_append h]

theorem members_member (fuel : Nat) {key gap : List UInt8} (hk : IsString key k)
    (hgap : Blank gap) (text : List UInt8) :
    members (fuel + 1) true (key ++ (gap ++ 0x3A :: text)) = readMember fuel k text := by
  cases hk with
  | quoted hk =>
    rw [List.cons_append, members, dropSpace_cons rfl]
    dsimp only
    rw [if_neg (by decide), if_pos rfl, if_pos (by decide), stringToken_append (.quoted hk)]
    dsimp only
    rw [dropSpace_append hgap, dropSpace_cons rfl]
    dsimp only
    rw [if_pos (by decide)]
    rfl

theorem members_comma (fuel : Nat) (ht : Opens 0x7D text) :
    members fuel false (0x2C :: text) = members fuel true text := by
  obtain ⟨b, bs, htext, hb⟩ := ht
  have hbrace : ¬ (b == 0x7D) = true := by simpa using hb
  cases fuel with
  | zero => rfl
  | succ fuel =>
    rw [members, members, dropSpace_cons rfl, htext]
    dsimp only
    rw [htext, if_neg (by decide), if_neg (by decide), if_pos (by decide)]
    dsimp only
    rw [if_neg hbrace, if_neg hbrace, if_pos rfl]

/-! ### Texts that are read -/

mutual

theorem value_append {d : Document} {text : List UInt8} (h : d.Spelt text) (fuel : Nat)
    (rest : List UInt8) (hf : 2 * text.length ≤ fuel) (hr : Delimits rest) :
    value fuel (text ++ rest) = (d, some rest) := by
  match h with
  | .scalar hgap h =>
    obtain ⟨b, bs, rfl, hb, hscalar⟩ := scalar_append h
    rw [List.length_append, List.length_cons] at hf
    obtain ⟨fuel, rfl⟩ : ∃ f, fuel = f + 1 := ⟨fuel - 1, by omega⟩
    rw [List.append_assoc, value_gap hgap, List.cons_append,
      value_scalar fuel hb.notSpace hb.notOpen hb.notBrace, hscalar rest hr]
  | .array hgap h =>
    rw [List.length_append, List.length_cons] at hf
    obtain ⟨fuel, rfl⟩ : ∃ f, fuel = f + 1 := ⟨fuel - 1, by omega⟩
    rw [List.append_assoc, value_gap hgap, List.cons_append, value_array,
      items_append h fuel rest (by omega)]
  | .object hgap h =>
    rw [List.length_append, List.length_cons] at hf
    obtain ⟨fuel, rfl⟩ : ∃ f, fuel = f + 1 := ⟨fuel - 1, by omega⟩
    rw [List.append_assoc, value_gap hgap, List.cons_append, value_object,
      members_append h fuel rest (by omega)]

theorem items_append {is : Items} {text : List UInt8} {first : Bool} (h : is.Spelt first text)
    (fuel : Nat) (rest : List UInt8) (hf : 2 * text.length + 1 ≤ fuel) :
    items fuel first (text ++ rest) = (is, some rest) := by
  match h with
  | .close hgap =>
    obtain ⟨fuel, rfl⟩ : ∃ f, fuel = f + 1 := ⟨fuel - 1, by omega⟩
    rw [List.append_assoc, items_gap hgap, List.singleton_append, items_close]
  | @Items.Spelt.item _ _ text more hd h =>
    have hlength := hd.length_pos
    rw [List.length_append] at hf
    obtain ⟨fuel, rfl⟩ : ∃ f, fuel = f + 1 := ⟨fuel - 1, by omega⟩
    have hfirst := value_append hd fuel (more ++ rest) (by omega) (h.delimits rest)
    have hmore := items_append h fuel rest (by omega)
    rw [List.append_assoc, items_item fuel (hd.opens _)]
    unfold readItem
    rw [hfirst]
    dsimp only
    rw [hmore]
  | .comma hgap h =>
    rw [List.length_append, List.length_cons] at hf
    rw [List.append_assoc, items_gap hgap, List.cons_append, items_comma fuel (h.opens rest)]
    exact items_append h fuel rest (by omega)

theorem members_append {ms : Members} {text : List UInt8} {first : Bool} (h : ms.Spelt first text)
    (fuel : Nat) (rest : List UInt8) (hf : 2 * text.length + 1 ≤ fuel) :
    members fuel first (text ++ rest) = (ms, some rest) := by
  match h with
  | .close hgap =>
    obtain ⟨fuel, rfl⟩ : ∃ f, fuel = f + 1 := ⟨fuel - 1, by omega⟩
    rw [List.append_assoc, members_gap hgap, List.singleton_append, members_close]
  | @Members.Spelt.member _ _ _ _ key _ text more hgap hk hgap' hd h =>
    simp only [List.length_append, List.length_cons] at hf
    obtain ⟨fuel, rfl⟩ : ∃ f, fuel = f + 1 := ⟨fuel - 1, by omega⟩
    have hfirst := value_append hd fuel (more ++ rest) (by omega) (h.delimits rest)
    have hmore := members_append h fuel rest (by omega)
    rw [List.append_assoc, members_gap hgap]
    simp only [List.append_assoc, List.cons_append]
    rw [members_member fuel hk hgap']
    unfold readMember
    rw [hfirst]
    dsimp only
    rw [hmore]
  | .comma hgap h =>
    rw [List.length_append, List.length_cons] at hf
    rw [List.append_assoc, members_gap hgap, List.cons_append, members_comma fuel (h.opens rest)]
    exact members_append h fuel rest (by omega)

end

/-! ### Texts behind what is read -/

theorem exists_front (bs : List UInt8) :
    ∃ gap, Blank gap ∧ (bs = gap ++ [] ∨ ∃ b more, bs = gap ++ b :: more ∧ isSpace b = false) := by
  obtain ⟨gap, hbs, hgap⟩ := exists_gap bs
  refine ⟨gap, hgap, ?_⟩
  cases hdrop : dropSpace bs with
  | nil => exact .inl (hdrop ▸ hbs)
  | cons b more =>
    have hhead := List.head?_dropWhile_not isSpace bs
    have hdrop' : bs.dropWhile isSpace = b :: more := hdrop
    rw [hdrop'] at hhead
    exact .inr ⟨b, more, hdrop ▸ hbs, hhead⟩

theorem opens_of_items (h : (items (fuel + 1) false (0x2C :: text)).1.skip = .ok ()) :
    Opens 0x5D text := by
  rw [items, dropSpace_cons rfl] at h
  dsimp only at h
  rw [if_neg (by decide), if_neg (by decide), if_pos (by decide)] at h
  cases htext : dropSpace text with
  | nil =>
    rw [htext] at h
    cases h
  | cons c cs =>
    refine ⟨c, cs, htext, ?_⟩
    rintro rfl
    rw [htext] at h
    cases h

theorem comma_of_items (hb : isSpace b = false) (hclose : b ≠ 0x5D)
    (h : (items (fuel + 1) false (b :: text)).1.skip = .ok ()) : b = 0x2C := by
  by_contra hcomma
  rw [items, dropSpace_cons hb] at h
  dsimp only at h
  rw [if_neg (by simpa using hclose), if_neg (by decide), if_neg (by simpa using hcomma)] at h
  cases h

theorem opens_of_members (h : (members (fuel + 1) false (0x2C :: text)).1.skip = .ok ()) :
    Opens 0x7D text := by
  rw [members, dropSpace_cons rfl] at h
  dsimp only at h
  rw [if_neg (by decide), if_neg (by decide), if_pos (by decide)] at h
  cases htext : dropSpace text with
  | nil =>
    rw [htext] at h
    cases h
  | cons c cs =>
    refine ⟨c, cs, htext, ?_⟩
    rintro rfl
    rw [htext] at h
    cases h

theorem comma_of_members (hb : isSpace b = false) (hclose : b ≠ 0x7D)
    (h : (members (fuel + 1) false (b :: text)).1.skip = .ok ()) : b = 0x2C := by
  by_contra hcomma
  rw [members, dropSpace_cons hb] at h
  dsimp only at h
  rw [if_neg (by simpa using hclose), if_neg (by decide), if_neg (by simpa using hcomma)] at h
  cases h

theorem skip_missing (k : Token String) (f : Fault) (ms : Members) :
    (Members.member k (.missing f) ms).skip ≠ .ok () := by
  rw [Members.skip]
  cases k.skip <;> exact nofun

/-- The first member of an object that does not close at once. -/
def firstMember (fuel : Nat) : List UInt8 → Members × Option (List UInt8)
  | [] => (.close .cut, none)
  | q :: text =>
    if q == 0x22 then
      match stringToken text with
      | (k, none) => (.member k (.missing .endInObject) (.close .cut), none)
      | (k, some rest) =>
        match dropSpace rest with
        | [] => (.member k (.missing .endInObject) (.close .cut), none)
        | c :: rest =>
          if c == 0x3A then readMember fuel k rest
          else (.member k (.missing .expectedColon) (.close .cut), none)
    else (.noKey (value fuel (q :: text)).1, none)

theorem members_open (fuel : Nat) (ht : Opens 0x7D text) :
    members (fuel + 1) true text = firstMember fuel (dropSpace text) := by
  obtain ⟨b, bs, htext, hb⟩ := ht
  rw [members, htext]
  dsimp only
  rw [if_neg (by simpa using hb), if_pos rfl]
  rfl

/-- **What the readers make of a text with so much fuel**: whatever shows nothing wrong follows the
rules, and they know what is left behind it. -/
structure ReadsSpelt (fuel : Nat) : Prop where
  value : ∀ bs, (value fuel bs).1.skip = .ok () →
    ∃ text rest, (value fuel bs).2 = some rest ∧ bs = text ++ rest ∧ (value fuel bs).1.Spelt text
  items : ∀ first bs, (items fuel first bs).1.skip = .ok () →
    ∃ text rest, (items fuel first bs).2 = some rest ∧ bs = text ++ rest ∧
      (items fuel first bs).1.Spelt first text
  members : ∀ first bs, (members fuel first bs).1.skip = .ok () →
    ∃ text rest, (members fuel first bs).2 = some rest ∧ bs = text ++ rest ∧
      (members fuel first bs).1.Spelt first text

namespace ReadsSpelt

variable (h : ReadsSpelt fuel)
include h

theorem readItem (hskip : (readItem fuel bs).1.skip = .ok ()) :
    ∃ d is text rest, Json.readItem fuel bs = (.item d is, some rest) ∧ bs = text ++ rest ∧
      (Items.item d is).Spelt true text := by
  have hfirst := h.value bs
  unfold Json.readItem at hskip ⊢
  cases hv : Json.value fuel bs with
  | mk d r =>
    rw [hv] at hfirst hskip
    cases hd : d.skip with
    | error f => cases r <;> simp [Items.skip, hd, Except.bind] at hskip
    | ok _ =>
      obtain ⟨text, rest, rfl, rfl, htext⟩ := hfirst hd
      have hmore := h.items false rest
      dsimp only at hskip ⊢
      rw [Items.skip, hd] at hskip
      obtain ⟨text', rest', hr, rfl, htext'⟩ := hmore hskip
      rw [hr]
      exact ⟨d, _, text ++ text', rest', rfl, (List.append_assoc _ _ _).symm, .item htext htext'⟩

theorem readMember (hskip : (readMember fuel k bs).1.skip = .ok ()) :
    ∃ d ms text more rest, Json.readMember fuel k bs = (.member k d ms, some rest) ∧
      bs = text ++ more ++ rest ∧ d.Spelt text ∧ ms.Spelt false more := by
  have hfirst := h.value bs
  unfold Json.readMember at hskip ⊢
  cases hv : Json.value fuel bs with
  | mk d r =>
    rw [hv] at hfirst hskip
    cases hk : k.skip with
    | error f => cases r <;> simp [Members.skip, hk, Except.bind] at hskip
    | ok _ =>
      cases hd : d.skip with
      | error f => cases r <;> simp [Members.skip, hk, hd, Except.bind] at hskip
      | ok _ =>
        obtain ⟨text, rest, rfl, rfl, htext⟩ := hfirst hd
        have hmore := h.members false rest
        dsimp only at hskip ⊢
        rw [Members.skip, hk, hd] at hskip
        obtain ⟨more, rest', hr, rfl, hmore⟩ := hmore hskip
        rw [hr]
        exact ⟨d, _, text, more, rest', rfl, (List.append_assoc _ _ _).symm, htext, hmore⟩

theorem firstMember (hskip : (firstMember fuel bs).1.skip = .ok ()) :
    ∃ k d ms text rest, Json.firstMember fuel bs = (.member k d ms, some rest) ∧
      bs = text ++ rest ∧ ∀ gap, Blank gap → (Members.member k d ms).Spelt true (gap ++ text) := by
  cases bs with
  | nil => cases hskip
  | cons q bs =>
    rw [Json.firstMember] at hskip ⊢
    by_cases hq : q = 0x22
    · subst hq
      rw [if_pos (beq_self_eq_true _)] at hskip ⊢
      cases htoken : stringToken bs with
      | mk k r =>
        rw [htoken] at hskip
        cases r with
        | none => exact absurd hskip (skip_missing k _ _)
        | some rest =>
          obtain ⟨key, rfl, hkey⟩ := isString_of_stringToken htoken
          dsimp only at hskip ⊢
          obtain ⟨gap, hgap, rfl | ⟨c, more, rfl, hc⟩⟩ := exists_front rest
          · rw [dropSpace_append hgap] at hskip
            exact absurd hskip (skip_missing k _ _)
          · rw [dropSpace_append hgap, dropSpace_cons hc] at hskip ⊢
            dsimp only at hskip ⊢
            by_cases hcolon : c = 0x3A
            · subst hcolon
              rw [if_pos (beq_self_eq_true _)] at hskip ⊢
              obtain ⟨d, ms, text, more, rest, hread, rfl, htext, hmore⟩ := h.readMember hskip
              refine ⟨k, d, ms, _, rest, hread, ?_, fun gap' hgap' =>
                .member hgap' hkey hgap htext hmore⟩
              simp only [List.append_assoc, List.cons_append]
            · rw [if_neg (by simpa using hcolon)] at hskip
              exact absurd hskip (skip_missing k _ _)
    · rw [if_neg (by simpa using hq)] at hskip
      cases hskip

end ReadsSpelt

/-- **Whatever is read without a fault follows the rules.** -/
theorem readsSpelt (fuel : Nat) : ReadsSpelt fuel := by
  induction fuel with
  | zero => exact ⟨nofun, nofun, nofun⟩
  | succ fuel ih =>
    constructor
    case value =>
      intro bs hskip
      obtain ⟨gap, hgap, rfl | ⟨b, more, rfl, hb⟩⟩ := exists_front bs
      · rw [value_gap hgap] at hskip
        cases hskip
      rw [value_gap hgap] at hskip ⊢
      by_cases hbracket : b = 0x5B
      · subst hbracket
        rw [value_array] at hskip ⊢
        obtain ⟨text, rest, hr, rfl, htext⟩ := ih.items true more hskip
        exact ⟨_, rest, hr, (List.append_assoc gap (0x5B :: text) rest).symm, .array hgap htext⟩
      by_cases hbrace : b = 0x7B
      · subst hbrace
        rw [value_object] at hskip ⊢
        obtain ⟨text, rest, hr, rfl, htext⟩ := ih.members true more hskip
        exact ⟨_, rest, hr, (List.append_assoc gap (0x7B :: text) rest).symm, .object hgap htext⟩
      rw [value_scalar fuel hb hbracket hbrace] at hskip ⊢
      obtain ⟨text, rest, hr, rfl, htext⟩ := isScalar_of_scalar rfl hskip
      exact ⟨_, rest, hr, (List.append_assoc gap (b :: text) rest).symm, .scalar hgap htext⟩
    case items =>
      have hfirst (text : List UInt8) (ht : Opens 0x5D text)
          (hskip : (items (fuel + 1) true text).1.skip = .ok ()) :
          ∃ d is front rest, items (fuel + 1) true text = (.item d is, some rest) ∧
            text = front ++ rest ∧ (Items.item d is).Spelt true front := by
        rw [items_item fuel ht] at hskip ⊢
        exact ih.readItem hskip
      intro first bs hskip
      obtain ⟨gap, hgap, rfl | ⟨b, more, rfl, hb⟩⟩ := exists_front bs
      · rw [items_gap hgap] at hskip
        cases hskip
      by_cases hbracket : b = 0x5D
      · subst hbracket
        rw [items_gap hgap, items_close]
        exact ⟨_, more, rfl, (List.append_assoc gap [0x5D] more).symm, .close hgap⟩
      cases first with
      | true =>
        obtain ⟨d, is, front, rest, hread, hbs, hfront⟩ :=
          hfirst _ (opens_cons hb hbracket hgap more) hskip
        rw [hread]
        exact ⟨front, rest, rfl, hbs, hfront⟩
      | false =>
        rw [items_gap hgap] at hskip ⊢
        obtain rfl := comma_of_items hb hbracket hskip
        have hopens := opens_of_items hskip
        rw [items_comma _ hopens] at hskip ⊢
        obtain ⟨d, is, front, rest, hread, rfl, hfront⟩ := hfirst more hopens hskip
        rw [hread]
        exact ⟨_, rest, rfl, (List.append_assoc gap (0x2C :: front) rest).symm,
          .comma hgap hfront⟩
    case members =>
      have hfirst (text : List UInt8) (ht : Opens 0x7D text)
          (hskip : (members (fuel + 1) true text).1.skip = .ok ()) :
          ∃ k d ms front rest, members (fuel + 1) true text = (.member k d ms, some rest) ∧
            text = front ++ rest ∧ (Members.member k d ms).Spelt true front := by
        rw [members_open fuel ht] at hskip ⊢
        obtain ⟨k, d, ms, front, rest, hread, htext, hfront⟩ := ih.firstMember hskip
        obtain ⟨gap, hgap, hblank⟩ := exists_gap text
        refine ⟨k, d, ms, gap ++ front, rest, hread, ?_, hfront gap hblank⟩
        rw [List.append_assoc, ← htext]
        exact hgap
      intro first bs hskip
      obtain ⟨gap, hgap, rfl | ⟨b, more, rfl, hb⟩⟩ := exists_front bs
      · rw [members_gap hgap] at hskip
        cases hskip
      by_cases hbrace : b = 0x7D
      · subst hbrace
        rw [members_gap hgap, members_close]
        exact ⟨_, more, rfl, (List.append_assoc gap [0x7D] more).symm, .close hgap⟩
      cases first with
      | true =>
        obtain ⟨k, d, ms, front, rest, hread, hbs, hfront⟩ :=
          hfirst _ (opens_cons hb hbrace hgap more) hskip
        rw [hread]
        exact ⟨front, rest, rfl, hbs, hfront⟩
      | false =>
        rw [members_gap hgap] at hskip ⊢
        obtain rfl := comma_of_members hb hbrace hskip
        have hopens := opens_of_members hskip
        rw [members_comma _ hopens] at hskip ⊢
        obtain ⟨k, d, ms, front, rest, hread, rfl, hfront⟩ := hfirst more hopens hskip
        rw [hread]
        exact ⟨_, rest, rfl, (List.append_assoc gap (0x2C :: front) rest).symm,
          .comma hgap hfront⟩

/-! ### Whole texts -/

mutual

theorem Document.Spelt.skip {d : Document} {text : List UInt8} (h : d.Spelt text) :
    d.skip = .ok () := by
  match h with
  | .scalar _ h => exact h.skip
  | .array _ h => exact h.skip
  | .object _ h => exact h.skip

theorem Items.Spelt.skip {is : Items} {first : Bool} {text : List UInt8}
    (h : is.Spelt first text) : is.skip = .ok () := by
  match h with
  | .close _ => rfl
  | .item hd h =>
    rw [Items.skip, hd.skip]
    exact h.skip
  | .comma _ h => exact h.skip

theorem Members.Spelt.skip {ms : Members} {first : Bool} {text : List UInt8}
    (h : ms.Spelt first text) : ms.skip = .ok () := by
  match h with
  | .close _ => rfl
  | .member _ hk _ hd h =>
    rw [Members.skip, hk.skip, hd.skip]
    exact h.skip
  | .comma _ h => exact h.skip

end

/-- **A text of a document is parsed to it**, and the white space behind it is left. -/
theorem parse_append (h : d.Spelt text) (hgap : Blank gap) :
    parse (text ++ gap) = (d, some gap) := by
  have hrest := delimits_gap hgap delimits_nil
  rw [List.append_nil] at hrest
  refine value_append h _ gap ?_ hrest
  rw [List.length_append]
  omega

/-- **What is parsed without a fault has a text** in front of what is left. -/
theorem spelt_of_parse (h : (parse text).1.skip = .ok ()) :
    ∃ front rest, (parse text).2 = some rest ∧ text = front ++ rest ∧ (parse text).1.Spelt front :=
  (readsSpelt _).value text h

end GceMachines.Json
