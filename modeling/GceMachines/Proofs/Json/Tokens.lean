import GceMachines.Json.Parser
import GceMachines.Proofs.Json.StringLiteral

/-!
# The grammar of tokens

Words, numbers and strings are given by rules that say how they are written and what they stand for,
and know nothing of the scanners. The scanners follow these rules: in front of a token they take it
in full, as long as nothing goes on with it, and whatever they take in full is a token.

* `IsNumeral`: a sign, whole digits, a fraction and an exponent.
* `IsString`: a string between its quotes.
* `Document.IsScalar`: a document written as one token.
* `numeral_append`, `stringToken_append`: a token is taken in full.
* `isNumeral_of_numeral`, `isString_of_stringToken`, `isScalar_of_scalar`: what is taken is a token.
-/

namespace GceMachines.Json

/-! ### The rules for numbers -/

/-- A digit. -/
def IsDigit (b : UInt8) : Prop := 0x30 ≤ b ∧ b ≤ 0x39

/-- The number that a digit stands for. -/
def digitOf (b : UInt8) : Nat := b.toNat - 0x30

/-- Some digits. -/
structure IsDigits (bs : List UInt8) : Prop where
  some : bs ≠ []
  digits : ∀ b ∈ bs, IsDigit b

/-- Whole digits, of which the first is a zero only if it is alone. -/
inductive IsWhole : List UInt8 → List Nat → Prop
  | zero : IsWhole [0x30] [0]
  | positive {b : UInt8} {bs : List UInt8} (h : IsDigits (b :: bs)) (hb : b ≠ 0x30) :
    IsWhole (b :: bs) ((b :: bs).map digitOf)

/-- A fraction, which may be missing. -/
inductive IsFraction : List UInt8 → Option (List Nat) → Prop
  | missing : IsFraction [] none
  | point {bs : List UInt8} (h : IsDigits bs) : IsFraction (0x2E :: bs) (some (bs.map digitOf))

/-- An exponent, which may be missing. -/
inductive IsExponent : List UInt8 → Option (Bool × List Nat) → Prop
  | missing : IsExponent [] none
  | unsigned {b : UInt8} {bs : List UInt8} (hb : b = 0x65 ∨ b = 0x45) (h : IsDigits bs) :
    IsExponent (b :: bs) (some (false, bs.map digitOf))
  | plus {b : UInt8} {bs : List UInt8} (hb : b = 0x65 ∨ b = 0x45) (h : IsDigits bs) :
    IsExponent (b :: 0x2B :: bs) (some (false, bs.map digitOf))
  | minus {b : UInt8} {bs : List UInt8} (hb : b = 0x65 ∨ b = 0x45) (h : IsDigits bs) :
    IsExponent (b :: 0x2D :: bs) (some (true, bs.map digitOf))

/-- **A number** and its parts. -/
inductive IsNumeral : List UInt8 → Numeral → Prop
  | positive {w f e : List UInt8} {whole : List Nat} {fraction : Option (List Nat)}
    {exponent : Option (Bool × List Nat)} (hw : IsWhole w whole) (hf : IsFraction f fraction)
    (he : IsExponent e exponent) : IsNumeral (w ++ (f ++ e)) ⟨false, whole, fraction, exponent⟩
  | negative {w f e : List UInt8} {whole : List Nat} {fraction : Option (List Nat)}
    {exponent : Option (Bool × List Nat)} (hw : IsWhole w whole) (hf : IsFraction f fraction)
    (he : IsExponent e exponent) :
    IsNumeral (0x2D :: (w ++ (f ++ e))) ⟨true, whole, fraction, exponent⟩

/-! ### Digits taken -/

variable {b : UInt8} {bs rest text : List UInt8}

theorem digit?_eq_some_iff {n : Nat} : digit? b = some n ↔ IsDigit b ∧ n = digitOf b := by
  unfold digit? digitOf
  split
  · next h =>
    rw [Bool.and_eq_true, decide_eq_true_eq, decide_eq_true_eq] at h
    rw [Option.some_inj]
    exact ⟨fun hn => ⟨h, hn.symm⟩, fun hn => hn.2.symm⟩
  · next h =>
    rw [Bool.and_eq_true, decide_eq_true_eq, decide_eq_true_eq] at h
    exact iff_of_false nofun fun hn => h hn.1

theorem digit?_of_isDigit (h : IsDigit b) : digit? b = some (digitOf b) :=
  digit?_eq_some_iff.mpr ⟨h, rfl⟩

/-- No digit goes on with the digits in front. -/
def NoDigit (rest : List UInt8) : Prop := ∀ b ∈ rest.head?, digit? b = none

/-- **What may follow a number**: nothing, or a byte that does not go on with it. -/
def Delimits (rest : List UInt8) : Prop :=
  ∀ b ∈ rest.head?, digit? b = none ∧ b ≠ 0x2E ∧ b ≠ 0x65 ∧ b ≠ 0x45

theorem delimits_nil : Delimits [] := nofun

theorem Delimits.noDigit (h : Delimits rest) : NoDigit rest := fun b hb => (h b hb).1

theorem noDigit_cons (h : digit? b = none) : NoDigit (b :: rest) := by
  rintro _ ⟨⟩
  exact h

theorem digits_of_noDigit (h : NoDigit rest) : digits rest = ([], rest) := by
  cases rest with
  | nil => rfl
  | cons b bs => rw [digits, h b rfl]

theorem digits_append_noDigit (h : ∀ b ∈ bs, IsDigit b) (hr : NoDigit rest) :
    digits (bs ++ rest) = (bs.map digitOf, rest) := by
  induction bs with
  | nil => exact digits_of_noDigit hr
  | cons b bs ih =>
    rw [List.cons_append, digits, digit?_of_isDigit (h b (.head _)),
      ih fun c hc => h c (.tail _ hc)]
    rfl

theorem someDigits_append (h : IsDigits bs) (hr : NoDigit rest) :
    someDigits (bs ++ rest) = .ok (bs.map digitOf, rest) := by
  unfold someDigits
  rw [digits_append_noDigit h.digits hr]
  cases bs with
  | nil => exact absurd rfl h.some
  | cons b bs => rfl

theorem isDigit_of_digits {ns : List Nat} (h : digits text = (ns, rest)) :
    ∃ bs, text = bs ++ rest ∧ (∀ b ∈ bs, IsDigit b) ∧ ns = bs.map digitOf := by
  induction text generalizing ns with
  | nil =>
    cases h
    exact ⟨[], rfl, nofun, rfl⟩
  | cons b text ih =>
    rw [digits] at h
    cases hb : digit? b with
    | none =>
      rw [hb] at h
      cases h
      exact ⟨[], rfl, nofun, rfl⟩
    | some n =>
      rw [hb] at h
      obtain ⟨hdigit, rfl⟩ := digit?_eq_some_iff.mp hb
      cases htext : digits text with
      | mk ns' rest' =>
        rw [htext] at h
        cases h
        obtain ⟨bs, rfl, hbs, rfl⟩ := ih htext
        exact ⟨b :: bs, rfl, List.forall_mem_cons.mpr ⟨hdigit, hbs⟩, rfl⟩

theorem isDigits_of_someDigits {ns : List Nat} (h : someDigits text = .ok (ns, rest)) :
    ∃ bs, text = bs ++ rest ∧ IsDigits bs ∧ ns = bs.map digitOf := by
  unfold someDigits at h
  split at h
  · cases h
  · cases h
  · next hdigits =>
    cases h
    obtain ⟨bs, htext, hbs, hns⟩ := isDigit_of_digits hdigits
    refine ⟨bs, htext, ⟨?_, hbs⟩, hns⟩
    rintro rfl
    cases hns

/-! ### Numbers taken -/

theorem digitOf_ne_zero (h : IsDigit b) (hb : b ≠ 0x30) : digitOf b ≠ 0 := by
  obtain ⟨hlow, -⟩ := h
  rw [UInt8.le_iff_toNat_le] at hlow
  have hne : b.toNat ≠ 0x30 := fun he => hb (UInt8.toNat_inj.mp he)
  unfold digitOf
  simp at hlow
  omega

theorem isDigits_zero : IsDigits [0x30] :=
  ⟨List.cons_ne_nil _ _, List.forall_mem_singleton.mpr ⟨by decide, by decide⟩⟩

theorem wholeDigits_append {whole : List Nat} (h : IsWhole text whole) (hr : NoDigit rest) :
    wholeDigits (text ++ rest) = .ok (whole, rest) := by
  unfold wholeDigits
  cases h with
  | zero =>
    rw [someDigits_append isDigits_zero hr]
    rfl
  | @positive b bs hdigits hb =>
    rw [someDigits_append hdigits hr, List.map_cons]
    have hne := digitOf_ne_zero (hdigits.digits b (.head _)) hb
    cases hzero : digitOf b with
    | zero => exact absurd hzero hne
    | succ n => rfl

theorem isWhole_of_wholeDigits {whole : List Nat} (h : wholeDigits text = .ok (whole, rest)) :
    ∃ w, text = w ++ rest ∧ IsWhole w whole := by
  unfold wholeDigits at h
  cases hsome : someDigits text with
  | error f =>
    rw [hsome] at h
    cases h
  | ok r =>
    obtain ⟨ns, rest'⟩ := r
    rw [hsome] at h
    obtain ⟨bs, rfl, hbs, rfl⟩ := isDigits_of_someDigits hsome
    obtain ⟨b, bs, rfl⟩ := List.exists_cons_of_ne_nil hbs.some
    by_cases hb : b = 0x30
    · subst hb
      cases bs with
      | nil =>
        cases h
        exact ⟨[0x30], rfl, .zero⟩
      | cons c bs => cases h
    · have hne := digitOf_ne_zero (hbs.digits b (.head _)) hb
      have hwhole := IsWhole.positive hbs hb
      rw [List.map_cons] at h hwhole
      cases hzero : digitOf b with
      | zero => exact absurd hzero hne
      | succ n =>
        rw [hzero] at h hwhole
        cases h
        exact ⟨_, rfl, hwhole⟩

theorem IsExponent.noPoint {e : List UInt8} {exponent : Option (Bool × List Nat)}
    (h : IsExponent e exponent) (hr : Delimits rest) :
    NoDigit (e ++ rest) ∧ ∀ b ∈ (e ++ rest).head?, b ≠ 0x2E := by
  have hletter {b : UInt8} (hb : b = 0x65 ∨ b = 0x45) : digit? b = none ∧ b ≠ 0x2E := by
    rcases hb with rfl | rfl <;> exact ⟨rfl, by decide⟩
  cases h with
  | missing => exact ⟨hr.noDigit, fun b hb => (hr b hb).2.1⟩
  | unsigned hb _ | plus hb _ | minus hb _ =>
    refine ⟨noDigit_cons (hletter hb).1, ?_⟩
    rintro _ ⟨⟩
    exact (hletter hb).2

theorem IsFraction.noDigit {f : List UInt8} {fraction : Option (List Nat)}
    (h : IsFraction f fraction) (hr : NoDigit rest) : NoDigit (f ++ rest) := by
  cases h with
  | missing => exact hr
  | point _ => exact noDigit_cons rfl

theorem fraction_append {f : List UInt8} {v : Option (List Nat)} (h : IsFraction f v)
    (hdigit : NoDigit rest) (hpoint : ∀ b ∈ rest.head?, b ≠ 0x2E) :
    fraction (f ++ rest) = .ok (v, rest) := by
  cases h with
  | missing =>
    cases rest with
    | nil => rfl
    | cons b bs => exact if_neg (by simpa using hpoint b rfl)
  | point h =>
    rw [List.cons_append, fraction, if_pos (beq_self_eq_true _), someDigits_append h hdigit]
    rfl

theorem isFraction_of_fraction {v : Option (List Nat)} (h : fraction text = .ok (v, rest)) :
    ∃ f, text = f ++ rest ∧ IsFraction f v := by
  cases text with
  | nil =>
    cases h
    exact ⟨[], rfl, .missing⟩
  | cons b bs =>
    rw [fraction] at h
    split at h
    · next hb =>
      rw [beq_iff_eq] at hb
      subst hb
      cases hsome : someDigits bs with
      | error f =>
        rw [hsome] at h
        cases h
      | ok r =>
        rw [hsome] at h
        cases h
        obtain ⟨ds, rfl, hds, hns⟩ := isDigits_of_someDigits hsome
        rw [hns]
        exact ⟨0x2E :: ds, rfl, .point hds⟩
    · cases h
      exact ⟨[], rfl, .missing⟩

/-- The digits of an exponent behind its letter and its sign. -/
def exponentDigits (below : Bool) (bs : List UInt8) :
    Except Fault (Option (Bool × List Nat) × List UInt8) :=
  (someDigits bs).map fun (ds, r) => (some (below, ds), r)

theorem exponentDigits_append (below : Bool) (h : IsDigits bs) (hr : NoDigit rest) :
    exponentDigits below (bs ++ rest) = .ok (some (below, bs.map digitOf), rest) := by
  unfold exponentDigits
  rw [someDigits_append h hr]
  rfl

theorem isDigits_of_exponentDigits {below : Bool} {v : Option (Bool × List Nat)}
    (h : exponentDigits below text = .ok (v, rest)) :
    ∃ bs, text = bs ++ rest ∧ IsDigits bs ∧ v = some (below, bs.map digitOf) := by
  unfold exponentDigits at h
  cases hsome : someDigits text with
  | error f =>
    rw [hsome] at h
    cases h
  | ok r =>
    rw [hsome] at h
    cases h
    obtain ⟨bs, hbs, hdigits, hns⟩ := isDigits_of_someDigits hsome
    rw [hns]
    exact ⟨bs, hbs, hdigits, rfl⟩

section
variable (hb : b = 0x65 ∨ b = 0x45)
include hb

theorem exponent_minus (bs : List UInt8) :
    exponent (b :: 0x2D :: bs) = exponentDigits true bs := by
  rcases hb with rfl | rfl <;> rfl

theorem exponent_plus (bs : List UInt8) :
    exponent (b :: 0x2B :: bs) = exponentDigits false bs := by
  rcases hb with rfl | rfl <;> rfl

theorem exponent_unsigned (h : ∀ s ∈ bs.head?, s ≠ 0x2D ∧ s ≠ 0x2B) :
    exponent (b :: bs) = exponentDigits false bs := by
  have hletter : (b == 0x65 || b == 0x45) = true := by
    rcases hb with rfl | rfl <;> rfl
  rw [exponent.eq_def]
  dsimp only
  rw [if_pos hletter]
  cases bs with
  | nil => rfl
  | cons s r =>
    obtain ⟨hminus, hplus⟩ := h s rfl
    dsimp only
    rw [if_neg (by simpa using hminus), if_neg (by simpa using hplus)]
    rfl

end

theorem exponent_append {e : List UInt8} {v : Option (Bool × List Nat)} (h : IsExponent e v)
    (hr : Delimits rest) : exponent (e ++ rest) = .ok (v, rest) := by
  cases h with
  | missing =>
    cases rest with
    | nil => rfl
    | cons b bs =>
      obtain ⟨-, -, he, hE⟩ := hr b rfl
      exact if_neg (by simp [he, hE])
  | @unsigned b bs hb h =>
    -- a digit is no sign
    have hsign : ∀ s ∈ (bs ++ rest).head?, s ≠ 0x2D ∧ s ≠ 0x2B := by
      obtain ⟨d, ds, rfl⟩ := List.exists_cons_of_ne_nil h.some
      have hd := (h.digits d (.head _)).1
      rintro _ ⟨⟩
      constructor <;> rintro rfl <;> exact absurd hd (by decide)
    rw [List.cons_append, exponent_unsigned hb hsign]
    exact exponentDigits_append false h hr.noDigit
  | plus hb h =>
    rw [List.cons_append, List.cons_append, exponent_plus hb]
    exact exponentDigits_append false h hr.noDigit
  | minus hb h =>
    rw [List.cons_append, List.cons_append, exponent_minus hb]
    exact exponentDigits_append true h hr.noDigit

theorem isExponent_of_exponent {v : Option (Bool × List Nat)} (h : exponent text = .ok (v, rest)) :
    ∃ e, text = e ++ rest ∧ IsExponent e v := by
  cases text with
  | nil =>
    cases h
    exact ⟨[], rfl, .missing⟩
  | cons b bs =>
    by_cases hb : b = 0x65 ∨ b = 0x45
    · by_cases hminus : bs.head? = some 0x2D
      · obtain ⟨r, rfl⟩ := List.head?_eq_some_iff.mp hminus
        rw [exponent_minus hb] at h
        obtain ⟨ds, rfl, hdigits, rfl⟩ := isDigits_of_exponentDigits h
        exact ⟨b :: 0x2D :: ds, rfl, .minus hb hdigits⟩
      · by_cases hplus : bs.head? = some 0x2B
        · obtain ⟨r, rfl⟩ := List.head?_eq_some_iff.mp hplus
          rw [exponent_plus hb] at h
          obtain ⟨ds, rfl, hdigits, rfl⟩ := isDigits_of_exponentDigits h
          exact ⟨b :: 0x2B :: ds, rfl, .plus hb hdigits⟩
        · have hsign : ∀ s ∈ bs.head?, s ≠ 0x2D ∧ s ≠ 0x2B := fun s hs =>
            ⟨fun he => hminus (he ▸ hs), fun he => hplus (he ▸ hs)⟩
          rw [exponent_unsigned hb hsign] at h
          obtain ⟨ds, rfl, hdigits, rfl⟩ := isDigits_of_exponentDigits h
          exact ⟨b :: ds, rfl, .unsigned hb hdigits⟩
    · have hmissing : exponent (b :: bs) = .ok (none, b :: bs) := if_neg (by simpa using hb)
      rw [hmissing] at h
      cases h
      exact ⟨[], rfl, .missing⟩

/-- The parts of a number behind its sign. -/
def unsigned (negative : Bool) (bs : List UInt8) : Except Fault (Numeral × List UInt8) := do
  let (whole, bs) ← wholeDigits bs
  let (fraction, bs) ← fraction bs
  let (exponent, bs) ← exponent bs
  return (⟨negative, whole, fraction, exponent⟩, bs)

theorem numeral_minus (bs : List UInt8) : numeral (0x2D :: bs) = unsigned true bs := rfl

theorem numeral_unsigned (h : bs.head? ≠ some 0x2D) : numeral bs = unsigned false bs := by
  cases bs with
  | nil => rfl
  | cons b bs =>
    have hb : (b == 0x2D) = false := by
      rw [beq_eq_false_iff_ne]
      exact fun he => h (congrArg some he)
    unfold numeral
    simp only [hb]
    rfl

section
variable {w f e : List UInt8} {whole : List Nat} {fraction : Option (List Nat)}
  {exponent : Option (Bool × List Nat)}

theorem unsigned_append (negative : Bool) (hw : IsWhole w whole) (hf : IsFraction f fraction)
    (he : IsExponent e exponent) (hr : Delimits rest) :
    unsigned negative (w ++ (f ++ e) ++ rest) =
      .ok (⟨negative, whole, fraction, exponent⟩, rest) := by
  obtain ⟨hdigit, hpoint⟩ := he.noPoint hr
  have hwhole := wholeDigits_append hw (hf.noDigit hdigit)
  have hfraction := fraction_append hf hdigit hpoint
  have hexponent := exponent_append he hr
  rw [List.append_assoc, List.append_assoc]
  simp only [unsigned, hwhole, hfraction, hexponent, bind, Except.bind]
  rfl

end

theorem isNumeral_of_unsigned {negative : Bool} {n : Numeral}
    (h : unsigned negative text = .ok (n, rest)) :
    ∃ w f e, text = w ++ (f ++ e) ++ rest ∧ IsWhole w n.whole ∧ IsFraction f n.fraction ∧
      IsExponent e n.exponent ∧ n.negative = negative := by
  unfold unsigned at h
  cases hw : wholeDigits text with
  | error _ =>
    rw [hw] at h
    cases h
  | ok r =>
    obtain ⟨whole, r⟩ := r
    obtain ⟨w, rfl, hwhole⟩ := isWhole_of_wholeDigits hw
    rw [hw] at h
    simp only [bind, Except.bind] at h
    cases hf : fraction r with
    | error _ =>
      rw [hf] at h
      cases h
    | ok r' =>
      obtain ⟨v, r'⟩ := r'
      obtain ⟨f, rfl, hfraction⟩ := isFraction_of_fraction hf
      rw [hf] at h
      dsimp only at h
      cases he : exponent r' with
      | error _ =>
        rw [he] at h
        cases h
      | ok r'' =>
        obtain ⟨v', r''⟩ := r''
        obtain ⟨e, rfl, hexponent⟩ := isExponent_of_exponent he
        rw [he] at h
        cases h
        exact ⟨w, f, e, by simp only [List.append_assoc], hwhole, hfraction, hexponent, rfl⟩

/-- **A number is taken in full**, if nothing goes on with it. -/
theorem numeral_append {n : Numeral} (h : IsNumeral text n) (hr : Delimits rest) :
    numeral (text ++ rest) = .ok (n, rest) := by
  cases h with
  | @positive w f e whole fraction exponent hw hf he =>
    have hsign : (w ++ (f ++ e) ++ rest).head? ≠ some 0x2D := by
      cases hw with
      | zero => exact nofun
      | positive h _ =>
        rintro ⟨⟩
        exact absurd (h.digits _ (.head _)).1 (by decide)
    rw [numeral_unsigned hsign]
    exact unsigned_append false hw hf he hr
  | negative hw hf he =>
    rw [List.cons_append, numeral_minus]
    exact unsigned_append true hw hf he hr

/-- **What is taken in full is a number.** -/
theorem isNumeral_of_numeral {n : Numeral} (h : numeral text = .ok (n, rest)) :
    ∃ bs, text = bs ++ rest ∧ IsNumeral bs n := by
  by_cases hminus : text.head? = some 0x2D
  · obtain ⟨bs, rfl⟩ := List.head?_eq_some_iff.mp hminus
    obtain ⟨negative, whole, fraction, exponent⟩ := n
    obtain ⟨w, f, e, rfl, hw, hf, he, rfl⟩ := isNumeral_of_unsigned h
    exact ⟨_, rfl, .negative hw hf he⟩
  · obtain ⟨negative, whole, fraction, exponent⟩ := n
    rw [numeral_unsigned hminus] at h
    obtain ⟨w, f, e, rfl, hw, hf, he, rfl⟩ := isNumeral_of_unsigned h
    exact ⟨_, rfl, .positive hw hf he⟩

/-! ### Strings -/

/-- **What follows the opening quote of a string**, up to the closing one, and its parts. -/
inductive IsStringTail : List UInt8 → List Part → Prop
  | close : IsStringTail [0x22] []
  | plain {b : UInt8} {bs : List UInt8} {ps : List Part} (hb : IsPlain b)
    (h : IsStringTail bs ps) : IsStringTail (b :: bs) (.byte b :: ps)
  | short {e : UInt8} {c : Char} {bs : List UInt8} {ps : List Part}
    (he : shortEscape? e = some c) (h : IsStringTail bs ps) :
    IsStringTail (0x5C :: e :: bs) (.escaped c :: ps)
  | unit {a b c d : UInt8} {n : Nat} {bs : List UInt8} {ps : List Part}
    (hn : hex4? a b c d = some n) (h : IsStringTail bs ps) :
    IsStringTail (0x5C :: 0x75 :: a :: b :: c :: d :: bs) (.unit n :: ps)

/-- **A string** and its token. -/
inductive IsString : List UInt8 → Token String → Prop
  | quoted {bs : List UInt8} {ps : List Part} (h : IsStringTail bs ps) :
    IsString (0x22 :: bs) ⟨(Literal.mk ps .closed []).value, .ok ()⟩

theorem scan_short {e : UInt8} {c : Char} (he : shortEscape? e = some c) (more : List UInt8) :
    scan (0x5C :: e :: more) = (scan more).push (.escaped c) := by
  have hu : e ≠ 0x75 := by
    rintro rfl
    cases he
  rw [scan]
  · rw [he]
  · exact fun _ _ _ _ _ h => absurd h hu
  · exact fun h => absurd h hu

theorem scan_append {ps : List Part} (h : IsStringTail text ps) (rest : List UInt8) :
    scan (text ++ rest) = ⟨ps, .closed, rest⟩ := by
  induction h with
  | close => rfl
  | plain hb _ ih =>
    rw [List.cons_append, scan_plain hb, ih]
    rfl
  | short he _ ih =>
    rw [List.cons_append, List.cons_append, scan_short he, ih]
    rfl
  | unit hn _ ih =>
    simp only [List.cons_append]
    rw [scan, hn, ih]
    rfl

theorem Literal.eq_of_push {l : Literal} {p : Part} {ps : List Part}
    (h : l.push p = ⟨ps, .closed, rest⟩) : ∃ qs, ps = p :: qs ∧ l = ⟨qs, .closed, rest⟩ := by
  obtain ⟨qs, ending, rest'⟩ := l
  cases h
  exact ⟨qs, rfl, rfl⟩

theorem isStringTail_of_scan {ps : List Part} (h : scan text = ⟨ps, .closed, rest⟩) :
    ∃ bs, text = bs ++ rest ∧ IsStringTail bs ps := by
  fun_induction scan text generalizing ps with
  | case2 a b c d more n hn ih =>
    obtain ⟨qs, rfl, hscan⟩ := Literal.eq_of_push h
    obtain ⟨bs, rfl, hbs⟩ := ih hscan
    exact ⟨_, rfl, .unit hn hbs⟩
  | case6 e more _ _ c he ih =>
    obtain ⟨qs, rfl, hscan⟩ := Literal.eq_of_push h
    obtain ⟨bs, rfl, hbs⟩ := ih hscan
    exact ⟨_, rfl, .short he hbs⟩
  | case8 b more _ _ _ _ hb =>
    cases h
    rw [beq_iff_eq] at hb
    rw [hb]
    exact ⟨_, rfl, .close⟩
  | case10 b more _ _ hlast hescape hquote hcontrol ih =>
    obtain ⟨qs, rfl, hscan⟩ := Literal.eq_of_push h
    obtain ⟨bs, rfl, hbs⟩ := ih hscan
    have hbackslash : b ≠ 0x5C := by
      intro hb
      cases hmore : bs ++ rest with
      | nil => exact hlast hb hmore
      | cons e more => exact hescape e more hb hmore
    exact ⟨_, rfl, .plain ⟨hbackslash, by simpa using hquote, hcontrol⟩ hbs⟩
  | case1 | case3 | case4 | case5 | case7 | case9 => cases h

/-- **A string is taken in full**, whatever follows. -/
theorem stringToken_append {k : Token String} (h : IsString (0x22 :: bs) k) (rest : List UInt8) :
    stringToken (bs ++ rest) = (k, some rest) := by
  cases h with
  | quoted h =>
    unfold stringToken
    rw [scan_append h]
    rfl

/-- **What is taken in full is a string.** -/
theorem isString_of_stringToken {k : Token String} (h : stringToken text = (k, some rest)) :
    ∃ bs, text = bs ++ rest ∧ IsString (0x22 :: bs) k := by
  unfold stringToken at h
  cases hscan : scan text with
  | mk ps ending rest' =>
    rw [hscan] at h
    cases ending with
    | closed =>
      cases h
      obtain ⟨bs, rfl, hbs⟩ := isStringTail_of_scan hscan
      exact ⟨bs, rfl, .quoted hbs⟩
    | _ => cases h

theorem exists_rest_of_stringToken {k : Token String} {r : Option (List UInt8)}
    (h : stringToken text = (k, r)) (hk : k.skip = .ok ()) : ∃ rest, r = some rest := by
  unfold stringToken at h
  cases hscan : scan text with
  | mk ps ending rest' =>
    rw [hscan] at h
    cases ending with
    | closed =>
      cases h
      exact ⟨rest', rfl⟩
    | _ =>
      cases h
      cases hk

/-! ### Scalars -/

/-- **A document written as one token.** -/
inductive Document.IsScalar : Document → List UInt8 → Prop
  | null : IsScalar .null [0x6E, 0x75, 0x6C, 0x6C]
  | true : IsScalar (.bool true) [0x74, 0x72, 0x75, 0x65]
  | false : IsScalar (.bool false) [0x66, 0x61, 0x6C, 0x73, 0x65]
  | number {n : Numeral} {bs : List UInt8} (h : IsNumeral bs n) :
    IsScalar (.number ⟨n.value, .ok ()⟩) bs
  | string {k : Token String} {bs : List UInt8} (h : IsString bs k) : IsScalar (.string k) bs

theorem IsString.skip {k : Token String} (h : IsString text k) : k.skip = .ok () := by
  cases h
  rfl

theorem Document.IsScalar.skip {d : Document} (h : d.IsScalar text) : d.skip = .ok () := by
  cases h with
  | string h => exact h.skip
  | _ => rfl

theorem IsNumeral.exists_cons {n : Numeral} (h : IsNumeral text n) :
    ∃ b bs, text = b :: bs ∧ (b == 0x2D || (digit? b).isSome) = true := by
  cases h with
  | negative => exact ⟨0x2D, _, rfl, rfl⟩
  | positive hw hf he =>
    cases hw with
    | zero => exact ⟨0x30, _, rfl, rfl⟩
    | @positive b bs h hb =>
      refine ⟨b, _, rfl, ?_⟩
      rw [digit?_of_isDigit (h.digits b (.head _))]
      exact Bool.or_true _

theorem append_of_afterWord {word : List UInt8} (h : afterWord word text = .ok rest) :
    text = word ++ rest := by
  induction word generalizing text with
  | nil =>
    cases h
    rfl
  | cons w word ih =>
    cases text with
    | nil => cases h
    | cons b text =>
      rw [afterWord] at h
      split at h
      · next hb =>
        rw [beq_iff_eq] at hb
        rw [hb, ih h]
        rfl
      · cases h

theorem isScalar_of_wordDocument {d d' : Document} {word : List UInt8} {r : Option (List UInt8)}
    (h : wordDocument d word text = (d', r)) (hd : d'.skip = .ok ()) :
    ∃ rest, r = some rest ∧ text = word ++ rest ∧ d' = d := by
  unfold wordDocument at h
  split at h
  · next hword =>
    cases h
    exact ⟨_, rfl, append_of_afterWord hword, rfl⟩
  · cases h
    cases hd

/-- **What is read without a fault is a scalar.** -/
theorem isScalar_of_scalar {d : Document} {r : Option (List UInt8)} (h : scalar b text = (d, r))
    (hd : d.skip = .ok ()) :
    ∃ bs rest, r = some rest ∧ text = bs ++ rest ∧ d.IsScalar (b :: bs) := by
  unfold scalar at h
  split at h
  · next hb =>
    rw [beq_iff_eq] at hb
    obtain ⟨rest, rfl, rfl, rfl⟩ := isScalar_of_wordDocument h hd
    exact ⟨_, rest, rfl, rfl, hb ▸ .null⟩
  split at h
  · next hb =>
    rw [beq_iff_eq] at hb
    obtain ⟨rest, rfl, rfl, rfl⟩ := isScalar_of_wordDocument h hd
    exact ⟨_, rest, rfl, rfl, hb ▸ .true⟩
  split at h
  · next hb =>
    rw [beq_iff_eq] at hb
    obtain ⟨rest, rfl, rfl, rfl⟩ := isScalar_of_wordDocument h hd
    exact ⟨_, rest, rfl, rfl, hb ▸ .false⟩
  split at h
  · next hb =>
    rw [beq_iff_eq] at hb
    cases htoken : stringToken text with
    | mk k r' =>
      rw [htoken] at h
      cases h
      obtain ⟨rest, rfl⟩ := exists_rest_of_stringToken htoken hd
      obtain ⟨bs, rfl, hbs⟩ := isString_of_stringToken htoken
      exact ⟨bs, rest, rfl, rfl, hb ▸ .string hbs⟩
  split at h
  · unfold numberToken at h
    cases hnumeral : numeral (b :: text) with
    | error f =>
      rw [hnumeral] at h
      cases h
      cases hd
    | ok r' =>
      obtain ⟨n, rest⟩ := r'
      rw [hnumeral] at h
      cases h
      obtain ⟨bs, hbs, hn⟩ := isNumeral_of_numeral hnumeral
      obtain ⟨c, bs, rfl, -⟩ := hn.exists_cons
      obtain ⟨rfl, rfl⟩ := List.cons.inj hbs
      exact ⟨bs, rest, rfl, rfl, .number hn⟩
  · cases h
    cases hd

end GceMachines.Json
