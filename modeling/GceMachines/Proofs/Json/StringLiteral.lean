import GceMachines.Json.StringLiteral
import GceMachines.Proofs.Text.Utf8

/-!
# Strings written and read

Every character of a text is written as itself or by an escape, and either way the scanner of
literals takes it as parts that stand for the bytes of this character. So a quoted text is one
literal, which ends with its closing quote whatever follows, and has the text as its value.

* `Spells`: the bytes by which a character is written, and the parts they are scanned to.
* `spells_escapeChar`: every character is written so.
* `stringToken_quote`: a quoted text is read back.
-/

namespace GceMachines.Json

open Utf8 (encode)

/-- A literal with more parts in front. -/
def Literal.pushAll (ps : List Part) (l : Literal) : Literal := { l with parts := ps ++ l.parts }

/-- **Bytes spell a character**: in front of any literal they are scanned to parts that stand for
it. -/
def Spells (c : Char) (bs : List UInt8) : Prop :=
  ∃ ps, (∀ more, scan (bs ++ more) = (scan more).pushAll ps) ∧
    ∀ ending qs,
      bytesOf ending (ps ++ qs) = (bytesOf ending qs).map (String.utf8EncodeChar c ++ ·)

theorem encode_char (c : Char) : encode c.toString = String.utf8EncodeChar c := by
  simp [Utf8.encode_eq_flatMap]

/-! ### Characters that stand for themselves -/

/-- A byte that stands for itself in a literal. -/
structure IsPlain (b : UInt8) : Prop where
  ne_backslash : b ≠ 0x5C
  ne_quote : b ≠ 0x22
  not_control : ¬ b < 0x20

theorem scan_plain {b : UInt8} (h : IsPlain b) (more : List UInt8) :
    scan (b :: more) = (scan more).push (.byte b) := by
  rw [scan]
  · rw [if_neg (by simpa using h.ne_quote), if_neg h.not_control]
  · exact fun _ _ _ _ _ hb => absurd hb h.ne_backslash
  · exact fun _ hb => absurd hb h.ne_backslash
  · exact fun hb => absurd hb h.ne_backslash
  · exact fun _ _ hb => absurd hb h.ne_backslash

theorem scan_append_plain {bs : List UInt8} (h : ∀ b ∈ bs, IsPlain b) (more : List UInt8) :
    scan (bs ++ more) = (scan more).pushAll (bs.map .byte) := by
  induction bs with
  | nil => rfl
  | cons b bs ih =>
    rw [List.cons_append, scan_plain (h b (.head _)), ih fun b' hb => h b' (.tail _ hb)]
    rfl

theorem bytesOf_append_plain (bs : List UInt8) (ending : Ending) (qs : List Part) :
    bytesOf ending (bs.map .byte ++ qs) = (bytesOf ending qs).map (bs ++ ·) := by
  induction bs with
  | nil =>
    rw [List.map_nil, List.nil_append]
    cases bytesOf ending qs <;> rfl
  | cons b bs ih =>
    rw [List.map_cons, List.cons_append, bytesOf, ih]
    cases bytesOf ending qs <;> rfl

theorem spells_self {c : Char} (h : 0x20 ≤ c.toNat) (hquote : c ≠ '"') (hback : c ≠ '\\') :
    Spells c (String.utf8EncodeChar c) := by
  refine ⟨_, scan_append_plain fun b hb => ?_, fun ending qs => bytesOf_append_plain _ ending qs⟩
  rcases Nat.lt_or_ge c.toNat 0x80 with hlt | hge
  · rw [Utf8.encodeChar_of_lt hlt, List.mem_singleton] at hb
    have hnat : b.toNat = c.toNat := by rw [hb, Utf8.toNat_byte (by omega)]
    refine ⟨?_, ?_, ?_⟩
    · rintro rfl
      exact hback (Char.toNat_inj.mp hnat.symm)
    · rintro rfl
      exact hquote (Char.toNat_inj.mp hnat.symm)
    · rw [UInt8.lt_iff_toNat_lt, hnat]
      exact Nat.not_lt.mpr h
  · have hb := Utf8.le_of_mem_encodeChar hge b hb
    refine ⟨?_, ?_, ?_⟩
    · rintro rfl
      exact absurd hb (by decide)
    · rintro rfl
      exact absurd hb (by decide)
    · rw [UInt8.lt_iff_toNat_lt]
      exact Nat.not_lt.mpr (Nat.le_trans (by decide) hb)

/-! ### Escapes -/

theorem spells_short {c : Char} {e : UInt8} (he : shortEscape? e = some c) (hu : e ≠ 0x75) :
    Spells c [0x5C, e] := by
  refine ⟨[.escaped c], fun more => ?_, fun ending qs => ?_⟩
  · show scan (0x5C :: e :: more) = _
    rw [scan]
    · rw [he]
      rfl
    · exact fun _ _ _ _ _ h => absurd h hu
    · exact fun h => absurd h hu
  · rw [List.singleton_append, bytesOf, encode_char]

theorem hex4?_hex2 : ∀ n < 0x20,
    hex4? 0x30 0x30 (UInt8.ofNat (Nat.digitChar (n / 16 % 16)).toNat)
      (UInt8.ofNat (Nat.digitChar (n % 16)).toNat) = some n := by
  decide

theorem digitChar_lt : ∀ n < 16, (Nat.digitChar n).toNat < 0x80 := by
  decide

theorem spells_control {c : Char} (h : c.toNat < 0x20) :
    Spells c ((['\\', 'u', '0', '0'] ++ hex2 c.toNat).flatMap String.utf8EncodeChar) := by
  have hfirst := digitChar_lt (c.toNat / 16 % 16) (by omega)
  have hsecond := digitChar_lt (c.toNat % 16) (by omega)
  refine ⟨[.unit c.toNat], fun more => ?_, fun ending qs => ?_⟩
  · simp only [hex2, List.cons_append, List.nil_append, List.flatMap_cons, List.flatMap_nil,
      Utf8.encodeChar_of_lt hfirst, Utf8.encodeChar_of_lt hsecond]
    show scan (0x5C :: 0x75 :: 0x30 :: 0x30 :: _ :: _ :: more) = _
    rw [scan, hex4?_hex2 c.toNat h]
    rfl
  · have htrailing : isTrailing c.toNat = false := by
      simp [isTrailing]
      omega
    have hleading : isLeading c.toNat = false := by
      simp [isLeading]
      omega
    rw [List.singleton_append, bytesOf.eq_def]
    simp only [htrailing, hleading, Bool.false_eq_true, if_false, Char.ofNat_toNat,
      encode_char]

/-- **Every character** is written by bytes that spell it. -/
theorem spells_escapeChar (c : Char) :
    Spells c ((escapeChar c).flatMap String.utf8EncodeChar) := by
  unfold escapeChar
  split
  · exact spells_short (e := 0x22) rfl (by decide)
  · exact spells_short (e := 0x5C) rfl (by decide)
  · exact spells_short (e := 0x6E) rfl (by decide)
  · exact spells_short (e := 0x72) rfl (by decide)
  · exact spells_short (e := 0x74) rfl (by decide)
  · exact spells_short (e := 0x62) rfl (by decide)
  · exact spells_short (e := 0x66) rfl (by decide)
  · next hquote hback _ _ _ _ _ =>
    split
    · next h => exact spells_control h
    · next h =>
      rw [List.flatMap_singleton]
      exact spells_self (Nat.le_of_not_lt h) (fun hc => hquote hc) (fun hc => hback hc)

/-! ### Texts -/

/-- The characters of a text, written one after the other up to the closing quote, are scanned to
parts that stand for them. -/
theorem scan_escaped (cs : List Char) (rest : List UInt8) :
    ∃ ps, scan ((cs.flatMap escapeChar).flatMap String.utf8EncodeChar ++ 0x22 :: rest) =
        ⟨ps, .closed, rest⟩ ∧
      bytesOf .closed ps = .ok (cs.flatMap String.utf8EncodeChar) := by
  induction cs with
  | nil => exact ⟨[], rfl, rfl⟩
  | cons c cs ih =>
    obtain ⟨ps, hscan, hbytes⟩ := ih
    obtain ⟨qs, hq, hqbytes⟩ := spells_escapeChar c
    refine ⟨qs ++ ps, ?_, ?_⟩
    · rw [List.flatMap_cons, List.flatMap_append, List.append_assoc, hq, hscan]
      rfl
    · rw [hqbytes, hbytes, List.flatMap_cons]
      rfl

/-- **A quoted text is read back**, whatever follows it. -/
theorem stringToken_quote (s : String) :
    ∃ bs, encode (quote s) = 0x22 :: bs ∧
      ∀ rest, stringToken (bs ++ rest) = (⟨.ok s, .ok ()⟩, some rest) := by
  refine ⟨(s.toList.flatMap escapeChar).flatMap String.utf8EncodeChar ++ [0x22], ?_,
    fun rest => ?_⟩
  · rw [quote, Utf8.encode_ofList, List.cons_append, List.flatMap_cons, List.flatMap_append]
    rfl
  · obtain ⟨ps, hscan, hbytes⟩ := scan_escaped s.toList rest
    rw [← Utf8.encode_eq_flatMap] at hbytes
    rw [List.append_assoc, List.singleton_append, stringToken, hscan]
    simp only [Literal.value, hbytes, Except.bind, Utf8.decode?_encode]
    rfl

end GceMachines.Json
