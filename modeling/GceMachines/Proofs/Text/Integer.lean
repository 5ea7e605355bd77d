import GceMachines.Text.Integer

/-!
# Numbers written and read

A number below a bound is read back from its decimal text, and one that is not below it is
refused: the value of the digits read so far only grows, so that the bound is passed at the latest
with the last digit.

* `readNat?_toString`: what reading makes of the text of a number.
* `readInt_toString`: the same with a sign, for a number between the bounds.
-/

namespace GceMachines.Text

theorem digit?_of_isDigit {c : Char} (h : c.isDigit = true) : digit? c = some (c.toNat - 48) := by
  obtain ⟨h₀, h₉⟩ := Char.isDigit_iff_toNat.mp h
  have h₀' : '0' ≤ c := h₀
  have h₉' : c ≤ '9' := h₉
  unfold digit?
  rw [if_pos (by simp [h₀', h₉'])]

theorem le_ofDigitChars (cs : List Char) (n : Nat) : n ≤ Nat.ofDigitChars 10 cs n := by
  induction cs generalizing n with
  | nil => exact Nat.le_refl n
  | cons c cs ih =>
    rw [Nat.ofDigitChars_cons]
    have := ih (10 * n + (c.toNat - '0'.toNat))
    omega

theorem readDigits_of_isDigit {bound : Nat} {e : IntegerError} {cs : List Char}
    (hcs : ∀ c ∈ cs, c.isDigit = true) {n : Nat} (hn : n < bound) :
    (readDigits (· < bound) e n cs).toOption =
      if Nat.ofDigitChars 10 cs n < bound then some (Nat.ofDigitChars 10 cs n) else none := by
  induction cs generalizing n with
  | nil =>
    rw [Nat.ofDigitChars_nil, if_pos hn]
    rfl
  | cons c cs ih =>
    have hc := digit?_of_isDigit (hcs c (.head _))
    rw [readDigits, hc, Nat.ofDigitChars_cons]
    dsimp only
    split
    · next h => exact ih (fun d hd => hcs d (.tail _ hd)) (of_decide_eq_true h)
    · next h =>
      have hle := le_ofDigitChars cs (10 * n + (c.toNat - 48))
      have hb : bound ≤ 10 * n + (c.toNat - 48) := by simpa using h
      exact (if_neg (Nat.not_lt.mpr (Nat.le_trans hb hle))).symm

theorem isDigit_of_mem_toString {n : Nat} {c : Char} (h : c ∈ (toString n).toList) :
    c.isDigit = true := by
  rw [Nat.toString_eq_repr, Nat.toList_repr] at h
  exact Nat.isDigit_of_mem_toDigits (by omega) (by omega) h

/-- **A number is read back from its text** if it is below the bound. -/
theorem readNat?_toString {bound : Nat} (hb : 0 < bound) (n : Nat) :
    readNat? bound (toString n) = if n < bound then some n else none := by
  have hd : ∀ c ∈ Nat.toDigits 10 n, c.isDigit = true := fun c hc =>
    Nat.isDigit_of_mem_toDigits (by omega) (by omega) hc
  have hr := readDigits_of_isDigit (e := .tooLarge) hd hb
  rw [Nat.ofDigitChars_ten_toDigits] at hr
  unfold readNat?
  rw [Nat.toString_eq_repr, Nat.toList_repr]
  dsimp only
  split
  · next h => exact absurd h Nat.toDigits_ne_nil
  · next h => exact absurd (hd '+' (by rw [h]; exact .head _)) (by decide)
  · next cs _ h => exact absurd (hd '+' (by rw [h]; exact .head _)) (by decide)
  · exact hr

theorem readDigits_of_fits {fits : Nat → Bool} {e : IntegerError} {cs : List Char} {n : Nat}
    (hle : ∀ a b, a ≤ b → fits b = true → fits a = true) (hcs : ∀ c ∈ cs, c.isDigit = true)
    (h : fits (Nat.ofDigitChars 10 cs n) = true) :
    readDigits fits e n cs = .ok (Nat.ofDigitChars 10 cs n) := by
  induction cs generalizing n with
  | nil => rfl
  | cons c cs ih =>
    have hc := digit?_of_isDigit (hcs c (.head _))
    rw [Nat.ofDigitChars_cons] at h ⊢
    have hfits : fits (10 * n + (c.toNat - 48)) = true :=
      hle _ _ (le_ofDigitChars cs (10 * n + (c.toNat - 48))) h
    rw [readDigits, hc]
    dsimp only
    rw [if_pos hfits]
    exact ih (fun d hd => hcs d (.tail _ hd)) h

/-- **A number with a sign is read back** from its text if it lies between the bounds. -/
theorem readInt_toString {low high n : Int} (hlow : low ≤ n) (hhigh : n ≤ high) :
    readInt low high (toString n) = .ok n := by
  have hd (m : Nat) : ∀ c ∈ Nat.toDigits 10 m, c.isDigit = true := fun c hc =>
    Nat.isDigit_of_mem_toDigits (by omega) (by omega) hc
  unfold readInt
  cases n with
  | ofNat m =>
    have htext : (toString (Int.ofNat m)).toList = Nat.toDigits 10 m := Nat.toList_repr
    have hread : readDigits (fun k => (k : Int) ≤ high) .tooLarge 0 (Nat.toDigits 10 m) =
        .ok (Nat.ofDigitChars 10 (Nat.toDigits 10 m) 0) := by
      refine readDigits_of_fits (fun a b hab hb => ?_) (hd m) ?_
      · simp at hb ⊢
        omega
      · rw [Nat.ofDigitChars_ten_toDigits]
        exact decide_eq_true hhigh
    rw [Nat.ofDigitChars_ten_toDigits] at hread
    rw [htext]
    split
    · next h => exact absurd h Nat.toDigits_ne_nil
    · next h => exact absurd (hd m '+' (by rw [h]; exact .head _)) (by decide)
    · next h => exact absurd (hd m '-' (by rw [h]; exact .head _)) (by decide)
    · next h => exact absurd (hd m '+' (by rw [h]; exact .head _)) (by decide)
    · next h => exact absurd (hd m '-' (by rw [h]; exact .head _)) (by decide)
    · rw [hread]
      rfl
  | negSucc m =>
    have htext : (toString (Int.negSucc m)).toList = '-' :: Nat.toDigits 10 (m + 1) := by
      show ("-" ++ Nat.repr (m + 1)).toList = _
      rw [String.toList_append, Nat.toList_repr]
      rfl
    have hread : readDigits (fun k => low ≤ -(k : Int)) .tooSmall 0 (Nat.toDigits 10 (m + 1)) =
        .ok (Nat.ofDigitChars 10 (Nat.toDigits 10 (m + 1)) 0) := by
      refine readDigits_of_fits (fun a b hab hb => ?_) (hd (m + 1)) ?_
      · simp at hb ⊢
        omega
      · rw [Nat.ofDigitChars_ten_toDigits]
        exact decide_eq_true (by omega)
    rw [Nat.ofDigitChars_ten_toDigits] at hread
    rw [htext]
    split
    · next h => cases h
    · next h => cases h
    · next h => exact absurd (List.cons.inj h).2 Nat.toDigits_ne_nil
    · next h => cases h
    · next h =>
      rw [← (List.cons.inj h).2, hread]
      rfl
    · next h => exact absurd rfl (h _)

end GceMachines.Text
