import GceMachines.Proofs.Json.Grammar
import GceMachines.Proofs.Json.Numeral

/-!
# Texts of values and their documents

The text of a value whose numbers are whole and fit 64 bits follows the rules of the grammar, and is
a text of the document of this value. So it is parsed to this document.

* `Json.Exact`: the values that are read back as they are.
* `Document.ofJson`: the document of a value.
* `spelt_compact`: the text of a value is one of its document.
* `text_compact`, `parse_compact`: it is a whole text of this document, and parsed to it.
-/

namespace GceMachines.Json

open Utf8 (encode)

/-! ### Values and documents -/

mutual

/-- **A value that is read back as it is**: its numbers are whole, and fit 64 bits. -/
def Exact : Json → Prop
  | .number (.int n) => Number.Fits n
  | .number (.float _) => False
  | .array is => ExactItems is
  | .object ms => ExactMembers ms
  | _ => True

/-- All items are read back as they are. -/
def ExactItems : List Json → Prop
  | [] => True
  | j :: js => j.Exact ∧ ExactItems js

/-- All members are read back as they are. -/
def ExactMembers : List (String × Json) → Prop
  | [] => True
  | (_, j) :: ms => j.Exact ∧ ExactMembers ms

end

mutual

/-- **The document of a value.** -/
def Document.ofJson : Json → Document
  | .null => .null
  | .bool b => .bool b
  | .number n => .number ⟨.ok n, .ok ()⟩
  | .string s => .string ⟨.ok s, .ok ()⟩
  | .array is => .array (Items.ofJson is)
  | .object ms => .object (Members.ofJson ms)

/-- The items of a list of values. -/
def Items.ofJson : List Json → Items
  | [] => .close .closed
  | j :: js => .item (Document.ofJson j) (Items.ofJson js)

/-- The members of an object of values. -/
def Members.ofJson : List (String × Json) → Members
  | [] => .close .closed
  | (k, j) :: ms => .member ⟨.ok k, .ok ()⟩ (Document.ofJson j) (Members.ofJson ms)

end

/-! ### Bytes between tokens -/

/-- The bytes of texts, each behind a comma. -/
def further (ts : List String) : List UInt8 := ts.flatMap fun t => 0x2C :: encode t

theorem encode_intercalate (t : String) (ts : List String) :
    encode (",".intercalate (t :: ts)) = encode t ++ further ts := by
  have hcomma : encode "," = [0x2C] := Utf8.encode_eq_flatMap ","
  induction ts generalizing t with
  | nil =>
    rw [String.intercalate_singleton]
    exact (List.append_nil _).symm
  | cons u us ih =>
    rw [String.intercalate_cons_cons, Utf8.encode_append, Utf8.encode_append, ih u, hcomma,
      List.append_assoc]
    rfl

/-! ### Texts of values -/

section
variable (j : Json) (js : List Json) (k : String) (ms : List (String × Json))

theorem encode_array_nil : encode (compact (.array [])) = [0x5B, 0x5D] := by
  rw [compact, compactItems, Utf8.encode_eq_flatMap]
  rfl

theorem encode_array_cons :
    encode (compact (.array (j :: js))) =
      0x5B :: (encode j.compact ++ (further (compactItems js) ++ [0x5D])) := by
  have hopen : encode "[" = [0x5B] := Utf8.encode_eq_flatMap "["
  have hclose : encode "]" = [0x5D] := Utf8.encode_eq_flatMap "]"
  rw [compact, compactItems, Utf8.encode_append, Utf8.encode_append, encode_intercalate, hopen,
    hclose, List.append_assoc, List.append_assoc]
  rfl

theorem encode_object_nil : encode (compact (.object [])) = [0x7B, 0x7D] := by
  rw [compact, compactMembers, Utf8.encode_eq_flatMap]
  rfl

theorem encode_member :
    encode (quote k ++ ":" ++ j.compact) = encode (quote k) ++ 0x3A :: encode j.compact := by
  have hcolon : encode ":" = [0x3A] := Utf8.encode_eq_flatMap ":"
  rw [Utf8.encode_append, Utf8.encode_append, hcolon, List.append_assoc]
  rfl

theorem encode_object_cons :
    encode (compact (.object ((k, j) :: ms))) =
      0x7B :: (encode (quote k) ++ 0x3A ::
        (encode j.compact ++ (further (compactMembers ms) ++ [0x7D]))) := by
  have hopen : encode "\x7b" = [0x7B] := Utf8.encode_eq_flatMap "\x7b"
  have hclose : encode "\x7d" = [0x7D] := Utf8.encode_eq_flatMap "\x7d"
  rw [compact, compactMembers, Utf8.encode_append, Utf8.encode_append, encode_intercalate, hopen,
    hclose, encode_member]
  simp only [List.append_assoc, List.cons_append, List.nil_append]

end

/-! ### Texts and their documents -/

theorem isScalar_toString {n : Int} (hn : Number.Fits n) :
    (Document.number ⟨.ok (.int n), .ok ()⟩).IsScalar (encode (toString n)) := by
  obtain ⟨m, hm, hvalue⟩ := isNumeral_toString hn
  rw [← hvalue]
  exact .number hm

/-- **A quoted text is a string.** -/
theorem isString_quote (s : String) : IsString (encode (quote s)) ⟨.ok s, .ok ()⟩ := by
  obtain ⟨bs, hquote, htoken⟩ := stringToken_quote s
  obtain ⟨bs', htext, hstring⟩ := isString_of_stringToken (htoken [])
  rw [List.append_nil, List.append_nil] at htext
  rw [hquote, htext]
  exact hstring

mutual

/-- **The text of a value** is one of its document. -/
theorem spelt_compact : ∀ j : Json, j.Exact → (Document.ofJson j).Spelt (encode j.compact)
  | .null, _ => by
    have htext : encode (compact .null) = [0x6E, 0x75, 0x6C, 0x6C] :=
      Utf8.encode_eq_flatMap "null"
    rw [htext]
    exact .scalar blank_nil .null
  | .bool true, _ => by
    have htext : encode (compact (.bool true)) = [0x74, 0x72, 0x75, 0x65] :=
      Utf8.encode_eq_flatMap "true"
    rw [htext]
    exact .scalar blank_nil .true
  | .bool false, _ => by
    have htext : encode (compact (.bool false)) = [0x66, 0x61, 0x6C, 0x73, 0x65] :=
      Utf8.encode_eq_flatMap "false"
    rw [htext]
    exact .scalar blank_nil .false
  | .number (.int n), hj => .scalar blank_nil (isScalar_toString hj)
  | .string s, _ => .scalar blank_nil (.string (isString_quote s))
  | .array [], _ => by
    rw [encode_array_nil]
    exact .array blank_nil (.close blank_nil)
  | .array (j :: js), hj => by
    rw [encode_array_cons]
    exact .array blank_nil (.item (spelt_compact j hj.1) (items_spelt_compact js hj.2))
  | .object [], _ => by
    rw [encode_object_nil]
    exact .object blank_nil (.close blank_nil)
  | .object ((k, j) :: ms), hj => by
    rw [encode_object_cons]
    exact .object blank_nil (.member blank_nil (isString_quote k) blank_nil
      (spelt_compact j hj.1) (members_spelt_compact ms hj.2))

/-- **The texts of further items** are one of their documents. -/
theorem items_spelt_compact : ∀ js : List Json, ExactItems js →
    (Items.ofJson js).Spelt false (further (compactItems js) ++ [0x5D])
  | [], _ => .close blank_nil
  | j :: js, hj => by
    have htext : further (compactItems (j :: js)) ++ [0x5D] =
        0x2C :: (encode j.compact ++ (further (compactItems js) ++ [0x5D])) :=
      congrArg (0x2C :: ·) (List.append_assoc _ _ _)
    rw [htext]
    exact .comma blank_nil (.item (spelt_compact j hj.1) (items_spelt_compact js hj.2))

/-- **The texts of further members** are one of their documents. -/
theorem members_spelt_compact : ∀ ms : List (String × Json), ExactMembers ms →
    (Members.ofJson ms).Spelt false (further (compactMembers ms) ++ [0x7D])
  | [], _ => .close blank_nil
  | (k, j) :: ms, hj => by
    have htext : further (compactMembers ((k, j) :: ms)) ++ [0x7D] =
        0x2C :: (encode (quote k) ++ 0x3A ::
          (encode j.compact ++ (further (compactMembers ms) ++ [0x7D]))) := by
      show 0x2C :: encode (quote k ++ ":" ++ j.compact) ++ further (compactMembers ms) ++ _ = _
      rw [encode_member]
      simp only [List.cons_append, List.append_assoc]
    rw [htext]
    exact .comma blank_nil (.member blank_nil (isString_quote k) blank_nil
      (spelt_compact j hj.1) (members_spelt_compact ms hj.2))

end

theorem text_compact {j : Json} (hj : j.Exact) : (Document.ofJson j).Text (encode j.compact) :=
  ⟨_, [], (List.append_nil _).symm, spelt_compact j hj, blank_nil⟩

/-- **The text of a value** is parsed to its document, and nothing follows it. -/
theorem parse_compact {j : Json} (hj : j.Exact) :
    parse (encode j.compact) = (.ofJson j, some []) := by
  have hparse := parse_append (spelt_compact j hj) blank_nil
  rw [List.append_nil] at hparse
  exact hparse

end GceMachines.Json
