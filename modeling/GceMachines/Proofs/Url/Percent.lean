import GceMachines.Proofs.Text.Utf8
import GceMachines.Url.Percent

/-!
# Encoded texts

An encoded text gives its text back, whichever bytes stand for themselves, as long as the percent
sign is not one of them and all of them are ASCII. What is encoded holds the characters that stand
for themselves, percent signs and hexadecimal digits, and nothing else.

* `percentText?_percentEncode`: an encoded text gives its text back.
* `not_mem_percentEncode`: characters that an encoded text does not hold.
* `formText?_formEncode`: a text in a form gives its text back.
-/

namespace GceMachines.Url

theorem percentText?_empty : percentText? "" = some "" := by
  rw [percentText?, Utf8.encode_eq_flatMap]
  exact Utf8.decode?_nil

/-- Whether the bytes that stand for themselves can be told from encoded ones. -/
def Readable (plain : UInt8 → Bool) : Prop :=
  ∀ b, plain b = true → b.toNat < 0x80 ∧ b ≠ 0x25

/-! ### Bytes -/

theorem encodeChar_ofByte {b : UInt8} (h : b.toNat < 0x80) :
    String.utf8EncodeChar (Char.ofNat b.toNat) = [b] := by
  have hc : (Char.ofNat b.toNat).toNat = b.toNat := by
    rw [Char.ofNat, dif_pos (.inl (by omega))]
    rfl
  rw [Utf8.encodeChar_of_lt (by rw [hc]; exact h), hc, UInt8.ofNat_toNat]

theorem hexValue?_upperHex {n : Nat} (h : n < 16) :
    ∃ b : UInt8, String.utf8EncodeChar (upperHex n) = [b] ∧ hexValue? b = some (UInt8.ofNat n) := by
  have hall : ∀ i : Fin 16, (upperHex i).toNat < 0x80 ∧
      hexValue? (UInt8.ofNat (upperHex i).toNat) = some (UInt8.ofNat i) := by decide
  obtain ⟨hlt, hv⟩ := hall ⟨n, h⟩
  exact ⟨_, Utf8.encodeChar_of_lt hlt, hv⟩

theorem percentDecode_cons_of_ne {b : UInt8} (h : b ≠ 0x25) (rest : List UInt8) :
    percentDecode (b :: rest) = b :: percentDecode rest := by
  rw [percentDecode]
  rintro _ _ _ rfl
  exact absurd rfl h

/-- **An encoded byte is read back**, whatever follows it. -/
theorem percentDecode_percentByte (b : UInt8) (rest : List UInt8) :
    percentDecode ((percentByte b).flatMap String.utf8EncodeChar ++ rest) =
      b :: percentDecode rest := by
  have hb : b.toNat < 256 := b.toNat_lt
  obtain ⟨x, hx, hxv⟩ := hexValue?_upperHex (n := b.toNat / 16) (by omega)
  obtain ⟨y, hy, hyv⟩ := hexValue?_upperHex (n := b.toNat % 16) (by omega)
  have hsign : String.utf8EncodeChar '%' = [0x25] := by decide
  have hvalue : UInt8.ofNat (b.toNat / 16) * 16 + UInt8.ofNat (b.toNat % 16) = b := by
    apply UInt8.toNat_inj.mp
    simp only [UInt8.toNat_add, UInt8.toNat_mul, UInt8.toNat_ofNat']
    simp
    omega
  simp only [percentByte, List.flatMap_cons, List.flatMap_nil, hsign, hx, hy, List.append_nil,
    List.cons_append, List.nil_append]
  rw [percentDecode, hxv, hyv]
  simp only [hvalue]

variable {plain : UInt8 → Bool}

theorem percentDecode_percentChars (hp : Readable plain) (bs rest : List UInt8) :
    percentDecode ((percentChars plain bs).flatMap String.utf8EncodeChar ++ rest) =
      bs ++ percentDecode rest := by
  induction bs with
  | nil => rfl
  | cons b bs ih =>
    rw [percentChars, List.flatMap_cons, List.flatMap_append, List.append_assoc]
    split
    · next hb =>
      obtain ⟨hlt, hne⟩ := hp b hb
      rw [List.flatMap_singleton, encodeChar_ofByte hlt, List.cons_append, List.nil_append,
        percentDecode_cons_of_ne hne]
      exact congrArg _ ih
    · rw [percentDecode_percentByte]
      exact congrArg _ ih

/-- **An encoded text gives its text back.** -/
theorem percentText?_percentEncode (hp : Readable plain) (s : String) :
    percentText? (percentEncode plain s) = some s := by
  have h := percentDecode_percentChars hp (Utf8.encode s) []
  rw [List.append_nil, percentDecode_nil, List.append_nil] at h
  rw [percentText?, percentEncode, Utf8.encode_ofList, h, Utf8.decode?_encode]

/-! ### Characters -/

theorem mem_percentChars {c : Char} {bs : List UInt8} (h : c ∈ percentChars plain bs) :
    (∃ b, plain b = true ∧ c = Char.ofNat b.toNat) ∨ c = '%' ∨ ∃ n < 16, c = upperHex n := by
  obtain ⟨b, -, hb⟩ := List.mem_flatMap.mp h
  have hlt : b.toNat < 256 := b.toNat_lt
  split at hb
  · next hp => exact .inl ⟨b, hp, List.mem_singleton.mp hb⟩
  · rcases List.mem_cons.mp hb with rfl | hb
    · exact .inr (.inl rfl)
    · rcases List.mem_cons.mp hb with rfl | hb
      · exact .inr (.inr ⟨_, by omega, rfl⟩)
      · exact .inr (.inr ⟨_, by omega, List.mem_singleton.mp hb⟩)

/-- **What an encoded text does not hold**: a character that does not stand for itself and that
encoded bytes are not written with. -/
theorem not_mem_percentEncode {c : Char} (hc : ∀ b, plain b = true → c ≠ Char.ofNat b.toNat)
    (hsign : c ≠ '%') (hdigit : ∀ n : Fin 16, c ≠ upperHex n) (s : String) :
    c ∉ (percentEncode plain s).toList := by
  intro h
  rw [percentEncode, String.toList_ofList] at h
  rcases mem_percentChars h with ⟨b, hb, hcb⟩ | hcs | ⟨n, hn, hcn⟩
  · exact hc b hb hcb
  · exact hsign hcs
  · exact hdigit ⟨n, hn⟩ hcn

theorem readable_printableBut {except : List Char} (h : '%' ∈ except) :
    Readable (printableBut except) := by
  intro b hb
  simp only [printableBut, Bool.and_eq_true, decide_eq_true_eq, UInt8.le_iff_toNat_le,
    UInt8.lt_iff_toNat_lt] at hb
  have hmax : b.toNat < 0x7F := hb.1.2
  refine ⟨by omega, ?_⟩
  rintro rfl
  exact hb.2 h

theorem ne_of_printableBut {except : List Char} {c : Char} (h : c ∈ except) (b : UInt8)
    (hb : printableBut except b = true) : c ≠ Char.ofNat b.toNat := by
  rintro rfl
  simp only [printableBut, Bool.and_eq_true, decide_eq_true_eq] at hb
  exact hb.2 h

/-! ### Forms -/

/-- **The text that a part of a form stands for.** -/
def formText? (written : String) : Option String :=
  percentText? (String.ofList (written.toList.map fun c => if c = '+' then ' ' else c))

/-- What stands for itself in a form whose plus signs are spaces again. -/
def spacedPlain (b : UInt8) : Bool := b == 0x20 || formPlain b

theorem formPlain_facts {b : UInt8} (h : formPlain b = true) :
    b.toNat < 0x80 ∧ b ≠ 0x25 ∧ Char.ofNat b.toNat ∉ ['+', '&', '='] := by
  have hall : ∀ i : Fin 256, formPlain (UInt8.ofNat i) = true →
      i.val < 0x80 ∧ i.val ≠ 0x25 ∧ Char.ofNat i.val ∉ ['+', '&', '='] := by decide +kernel
  have hb := hall ⟨b.toNat, b.toNat_lt⟩
  rw [UInt8.ofNat_toNat] at hb
  obtain ⟨hlt, hne, hmem⟩ := hb h
  exact ⟨hlt, fun e => hne (congrArg UInt8.toNat e), hmem⟩

theorem readable_spacedPlain : Readable spacedPlain := by
  intro b hb
  rcases Bool.or_eq_true_iff.mp hb with hb | hb
  · rw [eq_of_beq hb]
    decide
  · exact ⟨(formPlain_facts hb).1, (formPlain_facts hb).2.1⟩

theorem plus_ne_percentByte {c : Char} (hc : c ∈ ['+', '&', '=']) (b : UInt8) :
    c ∉ percentByte b := by
  have hsign : c ≠ '%' ∧ ∀ i : Fin 16, c ≠ upperHex i := by
    simp only [List.mem_cons, List.not_mem_nil, or_false] at hc
    rcases hc with rfl | rfl | rfl <;> decide
  have hlt : b.toNat < 256 := b.toNat_lt
  intro h
  rcases List.mem_cons.mp h with h | h
  · exact hsign.1 h
  · rcases List.mem_cons.mp h with h | h
    · exact hsign.2 ⟨_, by omega⟩ h
    · exact hsign.2 ⟨b.toNat % 16, by omega⟩ (List.mem_singleton.mp h)

/-- With spaces for its plus signs, a text in a form is an encoded text. -/
theorem unplussed_formEncode (s : String) :
    (formEncode s).toList.map (fun c => if c = '+' then ' ' else c) =
      percentChars spacedPlain (Utf8.encode s) := by
  rw [formEncode, String.toList_ofList, percentChars, List.map_flatMap]
  refine congrArg (List.flatMap · (Utf8.encode s)) (funext fun b => ?_)
  by_cases hspace : b = 0x20
  · subst hspace
    rfl
  · have hbeq : (b == 0x20) = false := Bool.eq_false_iff.mpr fun h => hspace (eq_of_beq h)
    rw [spacedPlain, hbeq, Bool.false_or, if_neg Bool.false_ne_true]
    split
    · next hplain =>
      have hne : Char.ofNat b.toNat ≠ '+' := fun h =>
        (formPlain_facts hplain).2.2 (h ▸ .head _)
      rw [List.map_singleton, if_neg hne]
    · rw [List.map_congr_left (g := id), List.map_id]
      intro c hc
      exact if_neg fun h => plus_ne_percentByte (by decide) b (h ▸ hc)

/-- **A text in a form gives its text back.** -/
theorem formText?_formEncode (s : String) : formText? (formEncode s) = some s := by
  have h := percentText?_percentEncode readable_spacedPlain s
  rwa [percentEncode, ← unplussed_formEncode] at h

theorem not_mem_formEncode {c : Char} (hc : c ∈ ['&', '=']) (s : String) :
    c ∉ (formEncode s).toList := by
  rw [formEncode, String.toList_ofList, List.mem_flatMap]
  rintro ⟨b, -, hb⟩
  split at hb
  · rw [List.mem_singleton] at hb
    subst hb
    revert hc
    decide
  · split at hb
    · next hplain =>
      rw [List.mem_singleton] at hb
      exact (formPlain_facts hplain).2.2 (hb ▸ List.mem_cons_of_mem _ hc)
    · exact plus_ne_percentByte (List.mem_cons_of_mem _ hc) b hb

end GceMachines.Url
