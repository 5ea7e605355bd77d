import GceMachines.Proofs.Json.Tokens
import GceMachines.Proofs.Text.Integer
import GceMachines.Proofs.Text.Utf8

/-!
# Whole numbers written and read

The text of a whole number is a numeral of the grammar. Its value is the number itself as long as
its digits fit 64 bits and, below zero, one more bit is left for the sign.

* `isWhole_toDigits`: the digits of a number are whole digits.
* `isNumeral_toString`: the text of a whole number is a numeral, and stands for the number.
-/

namespace GceMachines.Json

open Utf8 (encode)

/-- The whole numbers that a numeral can stand for: those of 64 bits, with a sign or without. -/
def Number.Fits (n : Int) : Prop := -Nat.pow 2 63 ≤ n ∧ n < Nat.pow 2 64

theorem Number.fits_iff {n : Int} :
    Number.Fits n ↔ -9223372036854775808 ≤ n ∧ n < 18446744073709551616 :=
  Iff.rfl

variable {cs : List Char} {c : Char} {m : Nat}

/-! ### Digits -/

/-- The byte of a character of ASCII. -/
def byteOf (c : Char) : UInt8 := UInt8.ofNat c.toNat

/-- The value of a digit. -/
def digitValue (c : Char) : Nat := c.toNat - 48

theorem toNat_byteOf (h : c.isDigit = true) : (byteOf c).toNat = c.toNat := by
  have h₉ := (Char.isDigit_iff_toNat.mp h).2
  exact Utf8.toNat_byte (by simp at h₉; omega)

theorem isDigit_byteOf (h : c.isDigit = true) : IsDigit (byteOf c) := by
  obtain ⟨h₀, h₉⟩ := Char.isDigit_iff_toNat.mp h
  unfold IsDigit
  rw [UInt8.le_iff_toNat_le, UInt8.le_iff_toNat_le, toNat_byteOf h]
  simp at h₀ h₉ ⊢
  omega

theorem map_digitOf (h : ∀ c ∈ cs, c.isDigit = true) :
    (cs.map byteOf).map digitOf = cs.map digitValue := by
  rw [List.map_map]
  refine List.map_congr_left fun c hc => ?_
  show (byteOf c).toNat - 0x30 = c.toNat - 48
  rw [toNat_byteOf (h c hc)]

theorem encode_digits (h : ∀ c ∈ cs, c.isDigit = true) :
    cs.flatMap String.utf8EncodeChar = cs.map byteOf := by
  induction cs with
  | nil => rfl
  | cons c cs ih =>
    have hc := (Char.isDigit_iff_toNat.mp (h c (.head _))).2
    rw [List.flatMap_cons, Utf8.encodeChar_of_lt (by simp at hc; omega),
      ih fun d hd => h d (.tail _ hd)]
    rfl

theorem absorb_digits {n : Nat} (h : Nat.ofDigitChars 10 cs n < Nat.pow 2 64) :
    Numeral.absorb n (cs.map digitValue) = (Nat.ofDigitChars 10 cs n, 0) := by
  induction cs generalizing n with
  | nil => rfl
  | cons c cs ih =>
    rw [Nat.ofDigitChars_cons] at h ⊢
    have hle : 10 * n + digitValue c ≤ Nat.ofDigitChars 10 cs (10 * n + digitValue c) :=
      Text.le_ofDigitChars cs _
    rw [List.map_cons, Numeral.absorb, if_pos (Nat.lt_of_le_of_lt hle h)]
    exact ih h

theorem isDigit_of_mem_toDigits (h : c ∈ Nat.toDigits 10 m) : c.isDigit = true :=
  Nat.isDigit_of_mem_toDigits (by omega) (by omega) h

theorem head?_toDigits (h : 0 < m) : (Nat.toDigits 10 m).head? ≠ some '0' := by
  have hdigit : ∀ d < 10, 0 < d → some (Nat.digitChar d) ≠ some '0' := by decide
  induction m using Nat.strongRecOn with
  | _ m ih =>
    by_cases hm : m < 10
    · rw [Nat.toDigits_of_lt_base hm]
      exact hdigit m hm h
    · have hfront := ih (m / 10) (by omega) (by omega)
      rw [Nat.toDigits_of_base_le (by omega) (by omega)]
      cases hd : Nat.toDigits 10 (m / 10) with
      | nil => exact absurd hd Nat.toDigits_ne_nil
      | cons c cs =>
        rw [hd] at hfront
        exact hfront

/-! ### Whole numbers -/

/-- **The digits of a number** are whole digits. -/
theorem isWhole_toDigits (m : Nat) :
    IsWhole ((Nat.toDigits 10 m).map byteOf) ((Nat.toDigits 10 m).map digitValue) := by
  have hdigit : ∀ c ∈ Nat.toDigits 10 m, c.isDigit = true := fun c hc => isDigit_of_mem_toDigits hc
  rcases Nat.eq_zero_or_pos m with rfl | hm
  · rw [Nat.toDigits_zero]
    exact .zero
  · rw [← map_digitOf hdigit]
    cases hd : Nat.toDigits 10 m with
    | nil => exact absurd hd Nat.toDigits_ne_nil
    | cons c cs =>
      rw [hd] at hdigit
      have hc := hdigit c (.head _)
      refine .positive ⟨List.cons_ne_nil _ _, ?_⟩ fun hzero => ?_
      · intro b (hb : b ∈ (c :: cs).map byteOf)
        obtain ⟨c', hc', rfl⟩ := List.mem_map.mp hb
        exact isDigit_byteOf (hdigit c' hc')
      · -- a positive number does not begin with a zero
        have hfront := head?_toDigits hm
        rw [hd] at hfront
        refine hfront (congrArg some (Char.toNat_inj.mp ?_))
        rw [← toNat_byteOf hc, hzero]
        rfl

theorem value_toDigits (negative : Bool) (hm : m < Nat.pow 2 64) :
    Numeral.value ⟨negative, (Nat.toDigits 10 m).map digitValue, none, none⟩ =
      if !negative then .ok (.int m)
      else if m == 0 || Nat.pow 2 63 < m then Numeral.scaled true m 0
      else .ok (.int (-(m : Int))) := by
  have hfits : Nat.ofDigitChars 10 (Nat.toDigits 10 m) 0 < Nat.pow 2 64 := by
    rw [Nat.ofDigitChars_ten_toDigits]
    exact hm
  have habsorb := absorb_digits hfits
  rw [Nat.ofDigitChars_ten_toDigits] at habsorb
  simp only [Numeral.value, habsorb]
  rfl

theorem encode_int (n : Int) :
    encode (toString n) =
      (if n < 0 then [0x2D] else []) ++ (Nat.toDigits 10 n.natAbs).map byteOf := by
  have hdigits (m : Nat) : encode m.repr = (Nat.toDigits 10 m).map byteOf := by
    rw [Utf8.encode_eq_flatMap, Nat.toList_repr]
    exact encode_digits fun c hc => isDigit_of_mem_toDigits hc
  cases n with
  | ofNat m => exact hdigits m
  | negSucc m =>
    have hminus : encode "-" = [0x2D] := Utf8.encode_eq_flatMap "-"
    rw [if_pos (Int.negSucc_lt_zero m)]
    show encode ("-" ++ Nat.repr (m + 1)) = _
    rw [Utf8.encode_append, hdigits, hminus]
    rfl

/-- **The text of a whole number is a numeral**, and stands for the number. -/
theorem isNumeral_toString {n : Int} (hn : Number.Fits n) :
    ∃ m, IsNumeral (encode (toString n)) m ∧ m.value = .ok (.int n) := by
  obtain ⟨hlow, hhigh⟩ := Number.fits_iff.mp hn
  have hvalue := value_toDigits (m := n.natAbs) (decide (n < 0)) (by simp; omega)
  have hwhole := isWhole_toDigits n.natAbs
  have htext : (Nat.toDigits 10 n.natAbs).map byteOf =
      (Nat.toDigits 10 n.natAbs).map byteOf ++ ([] ++ []) := (List.append_nil _).symm
  refine ⟨_, ?_, hvalue.trans ?_⟩
  · rw [encode_int, htext]
    by_cases hneg : n < 0
    · rw [if_pos hneg, decide_eq_true hneg, List.singleton_append]
      exact .negative hwhole .missing .missing
    · rw [if_neg hneg, decide_eq_false hneg, List.nil_append]
      exact .positive hwhole .missing .missing
  · by_cases hneg : n < 0
    · have hbound : (n.natAbs == 0 || Nat.pow 2 63 < n.natAbs) = false := by
        simp
        omega
      have habs : -(n.natAbs : Int) = n := by omega
      simp only [hneg, decide_true, Bool.not_true, Bool.false_eq_true, if_false, hbound, habs]
    · have habs : (n.natAbs : Int) = n := by omega
      simp only [hneg, decide_false, Bool.not_false, if_true, habs]

end GceMachines.Json
