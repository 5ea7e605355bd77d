import Mathlib.Computability.Language
import GceMachines.Proofs.Spec.Report
import GceMachines.Text.Split

/-!
# The grammar of addresses

The scanner for addresses of accounts is deterministic, and two descriptions of what it accepts are
not: the grammar, which cuts the domain into its labels, and the pattern, in which a label may be
read in several ways until the last one is known. All three are the same for every text.

* `Email.Address`: the grammar.
* `Email.pattern`: the pattern, as a language.
* `final_run_label_iff`: what the scanner wants of a domain, label by label.
* `mem_pattern_iff`: what the pattern wants of it.
* `email_rule_exact`: the rule reports exactly the emails that the grammar refuses.
-/

namespace GceMachines

namespace Email

open Text Computability

/-! ### The grammar and the pattern -/

/-- A letter of the ASCII alphabet. -/
def IsLetter (c : Char) : Prop := 'a' ≤ c ∧ c ≤ 'z' ∨ 'A' ≤ c ∧ c ≤ 'Z'

/-- A character of a label: a letter, a digit or a hyphen. -/
def IsLabelChar (c : Char) : Prop := IsLetter c ∨ '0' ≤ c ∧ c ≤ '9' ∨ c = '-'

/-- A label of a domain that is not the last one. -/
def IsLabel (l : List Char) : Prop := l ≠ [] ∧ ∀ c ∈ l, IsLabelChar c

/-- The last label of a domain. -/
def IsLastLabel (l : List Char) : Prop := 2 ≤ l.length ∧ ∀ c ∈ l, IsLetter c

/-- **A domain**: two labels at least. -/
def IsDomain (domain : List Char) : Prop :=
  ∃ labels last, domain.splitOn '.' = labels ++ [last] ∧ labels ≠ [] ∧
    (∀ l ∈ labels, IsLabel l) ∧ IsLastLabel last

/-- **The grammar of addresses**: one `@`, something before it, and a domain behind it. -/
structure Address (text : String) : Prop where
  once : text.toList.count '@' = 1
  parts : ∃ user domain, text.toList = user ++ '@' :: domain ∧ user ≠ [] ∧ IsDomain domain

/-- The words of one character out of a class. -/
def one (p : Char → Prop) : Language Char := {w | ∃ c, p c ∧ w = [c]}

/-- One word of a language or several, one after the other. -/
def oneOrMore (l : Language Char) : Language Char := l * l∗

/-- The part of the pattern for a label and its point, `[a-zA-Z-0-9]+\.`. -/
def labelPattern : Language Char := oneOrMore (one IsLabelChar) * one (· = '.')

/-- The part of the pattern for the last label, `[a-zA-Z]{2,}`. -/
def lastPattern : Language Char := one IsLetter * one IsLetter * (one IsLetter)∗

/-- **The pattern of addresses**, `[^@]+@(?:[a-zA-Z-0-9]+\.)+[a-zA-Z]{2,}`, for a whole text. -/
def pattern : Language Char :=
  oneOrMore (one (· ≠ '@')) * one (· = '@') * oneOrMore labelPattern * lastPattern

variable {cs w : List Char} {first letters : Bool} {n : Nat} {text : String}

/-! ### Classes of characters -/

theorem isAlpha_iff {c : Char} : c.isAlpha = true ↔ IsLetter c := by
  unfold IsLetter
  rw [Or.comm]
  show (decide ('A' ≤ c ∧ c ≤ 'Z') || decide ('a' ≤ c) && decide (c ≤ 'z')) = true ↔ _
  simp only [Bool.or_eq_true, Bool.and_eq_true, decide_eq_true_eq]

theorem isLabelChar_iff {c : Char} : isLabelChar c = true ↔ IsLabelChar c := by
  unfold isLabelChar IsLabelChar Char.isAlphanum
  rw [Bool.or_eq_true, Bool.or_eq_true, isAlpha_iff, beq_iff_eq, or_assoc]
  simp only [Char.isDigit, Bool.and_eq_true, decide_eq_true_eq, Char.le_def]

theorem IsLetter.isLabelChar {c : Char} (h : IsLetter c) : IsLabelChar c := .inl h

theorem IsLabelChar.ne {c : Char} (h : IsLabelChar c) : c ≠ '.' ∧ c ≠ '@' := by
  constructor <;> rintro rfl <;> revert h <;> unfold IsLabelChar IsLetter <;> decide

theorem IsLabelChar.isBlank {c : Char} (h : IsLabelChar c) : isBlank c = false := by
  have hbounds : c.toNat = 45 ∨ 48 ≤ c.toNat ∧ c.toNat ≤ 122 := by
    simp only [IsLabelChar, IsLetter, Char.le_def, UInt32.le_iff_toNat_le] at h
    rcases h with (h | h) | h | rfl
    · exact .inr ⟨Nat.le_trans (by decide) h.1, h.2⟩
    · exact .inr ⟨Nat.le_trans (by decide) h.1, Nat.le_trans h.2 (by decide)⟩
    · exact .inr ⟨h.1, Nat.le_trans h.2 (by decide)⟩
    · exact .inl rfl
  simp only [Text.isBlank, Bool.or_eq_false_iff, Bool.and_eq_false_iff, decide_eq_false_iff_not,
    beq_eq_false_iff_ne]
  omega

/-! ### What the scanner wants of a domain -/

/-- A label is read to its end, or refused if another character stands in it. -/
theorem run_label_of_not_mem (h : '.' ∉ cs) : run (.label first letters n) cs =
    if cs.all isLabelChar then .label first (letters && cs.all Char.isAlpha) (n + cs.length)
    else .refused := by
  induction cs generalizing letters n with
  | nil => simp [run]
  | cons c cs ih =>
    obtain ⟨hc, hcs⟩ := not_or.mp (mt List.mem_cons.mpr h)
    show run (step (.label first letters n) c) cs = _
    rw [step, if_neg (by simpa using fun e : c = '.' => hc e.symm)]
    cases hlabel : isLabelChar c with
    | true =>
      rw [if_pos rfl, ih hcs]
      simp [hlabel, Bool.and_assoc, Nat.add_comm 1, Nat.add_assoc]
    | false =>
      rw [if_neg Bool.false_ne_true, refused_run]
      simp [hlabel]

/-- What the scanner wants of the labels that are left, the first of them begun already. -/
def Wanted (first letters : Bool) (n : Nat) : List (List Char) → Prop
  | [] => False
  | [l] => first = false ∧ letters = true ∧ (∀ c ∈ l, IsLetter c) ∧ 2 ≤ n + l.length
  | l :: l' :: ls => n + l.length ≠ 0 ∧ (∀ c ∈ l, IsLabelChar c) ∧ Wanted false true 0 (l' :: ls)

/-- **What the scanner accepts**, label by label. -/
theorem final_run_label_iff {ls : List (List Char)} (hne : ls ≠ []) (h : ∀ l ∈ ls, '.' ∉ l) :
    (run (.label first letters n) (['.'].intercalate ls)).final = true ↔
      Wanted first letters n ls := by
  induction ls generalizing first letters n with
  | nil => exact absurd rfl hne
  | cons l ls ih =>
    have hl := @run_label_of_not_mem l first letters n (h l (.head _))
    have hall : l.all isLabelChar = true ↔ ∀ c ∈ l, IsLabelChar c := by
      simp only [List.all_eq_true, isLabelChar_iff]
    cases ls with
    | nil =>
      have halpha : l.all Char.isAlpha = true ↔ ∀ c ∈ l, IsLetter c := by
        simp only [List.all_eq_true, isAlpha_iff]
      rw [List.intercalate_singleton, hl, Wanted]
      split
      · cases first with
        | true => simp [State.final]
        | false =>
          cases letters with
          | false => simp [State.final]
          | true =>
            cases hletters : l.all Char.isAlpha <;>
              simp [State.final, hletters, ← halpha]
      · next hnot =>
        refine iff_of_false Bool.false_ne_true fun hw => hnot (hall.mpr fun c hc => ?_)
        exact (hw.2.2.1 c hc).isLabelChar
    | cons l' ls =>
      have hrun : run (.label first letters n) (['.'].intercalate (l :: l' :: ls)) =
          run (step (run (.label first letters n) l) '.') (['.'].intercalate (l' :: ls)) := by
        rw [List.intercalate_cons_cons, List.append_assoc, run, List.foldl_append]
        rfl
      rw [hrun, hl, Wanted, ← ih (List.cons_ne_nil _ _) fun m hm => h m (.tail _ hm), ← hall]
      split
      · next hlabels =>
        rw [step, if_pos (by decide)]
        split
        · next hzero => simp_all [refused_run, State.final]
        · next hzero => simp_all
      · next hnot => simp_all [step, refused_run, State.final]

theorem wanted_append_iff {labels : List (List Char)} {last : List Char} :
    Wanted first true 0 (labels ++ [last]) ↔
      (labels = [] → first = false) ∧ (∀ l ∈ labels, IsLabel l) ∧ IsLastLabel last := by
  induction labels generalizing first with
  | nil => simp [Wanted, IsLastLabel, and_comm]
  | cons l ls ih =>
    have hsplit : Wanted first true 0 (l :: (ls ++ [last])) ↔
        l ≠ [] ∧ (∀ c ∈ l, IsLabelChar c) ∧ Wanted false true 0 (ls ++ [last]) := by
      cases hls : ls ++ [last] with
      | nil => simp at hls
      | cons l' ls' => rw [Wanted, Nat.zero_add, Ne, List.length_eq_zero_iff]
    rw [List.cons_append, hsplit, ih]
    simp [IsLabel, and_assoc]

/-- **The scanner accepts domains** behind the `@`, and nothing else. -/
theorem final_run_domain_iff : (run (.label true true 0) cs).final = true ↔ IsDomain cs := by
  have hne := List.splitOn_ne_nil '.' cs
  have hfinal := @final_run_label_iff true true 0 _ hne fun l hl => not_mem_of_mem_splitOn hl
  rw [List.intercalate_splitOn] at hfinal
  obtain ⟨labels, last, hsplit⟩ := List.eq_nil_or_concat (cs.splitOn '.') |>.resolve_left hne
  rw [List.concat_eq_append] at hsplit
  rw [hfinal, IsDomain, hsplit, wanted_append_iff]
  constructor
  · rintro ⟨hfirst, hlabels, hlast⟩
    exact ⟨labels, last, rfl, fun he => Bool.noConfusion (hfirst he), hlabels, hlast⟩
  · rintro ⟨labels', last', he, hne', hlabels, hlast⟩
    obtain ⟨rfl, hlast'⟩ := List.append_inj' he rfl
    cases hlast'
    exact ⟨fun h => absurd h hne', hlabels, hlast⟩

theorem IsDomain.chars (h : IsDomain cs) : ∀ c ∈ cs, c = '.' ∨ IsLabelChar c := by
  obtain ⟨labels, last, hsplit, -, hlabels, hlast⟩ := h
  have hparts : ∀ l ∈ cs.splitOn '.', ∀ c ∈ l, IsLabelChar c := by
    rw [hsplit]
    intro l hl c hc
    rcases List.mem_append.mp hl with hl | hl
    · exact (hlabels l hl).2 c hc
    · rw [List.mem_singleton.mp hl] at hc
      exact (hlast.2 c hc).isLabelChar
  have hjoin := @List.intercalate_splitOn _ cs _ _ '.'
  obtain ⟨l, ls, hls⟩ := List.exists_cons_of_ne_nil (List.splitOn_ne_nil '.' cs)
  rw [hls] at hjoin hparts
  rw [intercalate_singleton_cons] at hjoin
  intro c hc
  rw [← hjoin, List.mem_append, List.mem_flatMap] at hc
  rcases hc with hc | ⟨l', hl', hc⟩
  · exact .inr (hparts l (.head _) c hc)
  · exact (List.mem_cons.mp hc).imp_right (hparts l' (.tail _ hl') c)

theorem IsDomain.ne_nil (h : IsDomain cs) : cs ≠ [] := by
  rintro rfl
  obtain ⟨labels, last, hsplit, hne, -⟩ := h
  have hparts : [] ++ [[]] = labels ++ [last] := hsplit
  exact hne (List.append_inj' hparts rfl).1.symm

theorem IsDomain.at_not_mem (h : IsDomain cs) : '@' ∉ cs := by
  intro hat
  rcases h.chars _ hat with he | hlabel
  · cases he
  · exact hlabel.ne.2 rfl

theorem IsDomain.isBlank (h : IsDomain cs) : ∀ c ∈ cs, isBlank c = false := by
  intro c hc
  rcases h.chars c hc with rfl | hlabel
  · rfl
  · exact hlabel.isBlank

/-! ### The scanner and the grammar -/

theorem run_localPart_iff : (run .localPart cs).final = true ↔
    ∃ user domain, cs = user ++ '@' :: domain ∧ '@' ∉ user ∧ IsDomain domain := by
  induction cs with
  | nil => simp [run, State.final]
  | cons c cs ih =>
    show (run (step .localPart c) cs).final = true ↔ _
    by_cases hc : c = '@'
    · subst hc
      rw [step, if_pos (by decide), final_run_domain_iff]
      constructor
      · exact fun h => ⟨[], cs, rfl, List.not_mem_nil, h⟩
      · rintro ⟨user, domain, he, hnot, hdomain⟩
        cases user with
        | nil => cases he; exact hdomain
        | cons u us => cases he; exact absurd (.head _) hnot
    · rw [step, if_neg (by simpa using hc), ih]
      constructor
      · rintro ⟨user, domain, rfl, hnot, hdomain⟩
        have hnot' := List.not_mem_cons_of_ne_of_not_mem (Ne.symm hc) hnot
        exact ⟨c :: user, domain, rfl, hnot', hdomain⟩
      · rintro ⟨user, domain, he, hnot, hdomain⟩
        cases user with
        | nil => cases he; exact absurd rfl hc
        | cons u us =>
          cases he
          exact ⟨us, domain, rfl, fun hmem => hnot (.tail _ hmem), hdomain⟩

theorem address_iff : Address text ↔ ∃ user domain, text.toList = user ++ '@' :: domain ∧
    user ≠ [] ∧ '@' ∉ user ∧ IsDomain domain := by
  constructor
  · rintro ⟨honce, user, domain, htext, hne, hdomain⟩
    refine ⟨user, domain, htext, hne, ?_, hdomain⟩
    rw [htext, List.count_append, List.count_cons_self] at honce
    exact List.count_eq_zero.mp (by omega)
  · rintro ⟨user, domain, htext, hne, huser, hdomain⟩
    refine ⟨?_, user, domain, htext, hne, hdomain⟩
    rw [htext, List.count_append, List.count_cons_self, List.count_eq_zero.mpr huser,
      List.count_eq_zero.mpr hdomain.at_not_mem]

/-- **The scanner accepts addresses** and nothing else. -/
theorem isAddress_iff : isAddress text = true ↔ Address text := by
  rw [address_iff, isAddress]
  cases text.toList with
  | nil => simp [run, State.final]
  | cons c cs =>
    show (run (step .start c) cs).final = true ↔ _
    by_cases hc : c = '@'
    · subst hc
      rw [step, if_pos (by decide), refused_run]
      refine iff_of_false Bool.false_ne_true ?_
      rintro ⟨user, domain, he, hne, hnot, -⟩
      cases user with
      | nil => exact hne rfl
      | cons u us => cases he; exact hnot (.head _)
    · rw [step, if_neg (by simpa using hc), run_localPart_iff]
      constructor
      · rintro ⟨user, domain, rfl, hnot, hdomain⟩
        exact ⟨c :: user, domain, rfl, List.cons_ne_nil _ _,
          List.not_mem_cons_of_ne_of_not_mem (Ne.symm hc) hnot, hdomain⟩
      · rintro ⟨user, domain, he, hne, hnot, hdomain⟩
        cases user with
        | nil => exact absurd rfl hne
        | cons u us =>
          cases he
          exact ⟨us, domain, rfl, fun hmem => hnot (.tail _ hmem), hdomain⟩

/-! ### The pattern and the grammar -/

theorem mem_one_iff {p : Char → Prop} : w ∈ one p ↔ ∃ c, p c ∧ w = [c] := Iff.rfl

theorem mem_kstar_one_iff {p : Char → Prop} : w ∈ (one p)∗ ↔ ∀ c ∈ w, p c := by
  rw [Language.mem_kstar]
  constructor
  · rintro ⟨ws, rfl, hws⟩ c hc
    obtain ⟨v, hv, hcv⟩ := List.mem_flatten.mp hc
    obtain ⟨d, hd, rfl⟩ := hws v hv
    rw [List.mem_singleton.mp hcv]
    exact hd
  · intro h
    refine ⟨w.map fun c => [c], ?_, fun v hv => ?_⟩
    · rw [← List.flatMap_def, List.flatMap_singleton']
    · obtain ⟨c, hc, rfl⟩ := List.mem_map.mp hv
      exact ⟨c, h c hc, rfl⟩

theorem mem_oneOrMore_one_iff {p : Char → Prop} :
    w ∈ oneOrMore (one p) ↔ w ≠ [] ∧ ∀ c ∈ w, p c := by
  unfold oneOrMore
  simp only [Language.mem_mul, mem_kstar_one_iff, mem_one_iff]
  constructor
  · rintro ⟨_, ⟨c, hc, rfl⟩, v, hv, rfl⟩
    exact ⟨nofun, List.forall_mem_cons.mpr ⟨hc, hv⟩⟩
  · rintro ⟨hne, h⟩
    obtain ⟨c, v, rfl⟩ := List.exists_cons_of_ne_nil hne
    obtain ⟨hc, hv⟩ := List.forall_mem_cons.mp h
    exact ⟨[c], ⟨c, hc, rfl⟩, v, hv, rfl⟩

/-- Labels with the point behind each of them. -/
def pointed (labels : List (List Char)) : List Char := labels.flatMap (· ++ ['.'])

theorem mem_labelPattern_iff : w ∈ labelPattern ↔ ∃ l, IsLabel l ∧ w = l ++ ['.'] := by
  simp only [labelPattern, Language.mem_mul, mem_oneOrMore_one_iff, mem_one_iff]
  constructor
  · rintro ⟨l, hl, _, ⟨c, rfl, rfl⟩, rfl⟩
    exact ⟨l, hl, rfl⟩
  · rintro ⟨l, hl, rfl⟩
    exact ⟨l, hl, ['.'], ⟨'.', rfl, rfl⟩, rfl⟩

theorem mem_labels_iff : w ∈ oneOrMore labelPattern ↔
    ∃ labels, labels ≠ [] ∧ (∀ l ∈ labels, IsLabel l) ∧ w = pointed labels := by
  rw [oneOrMore, Language.mem_mul]
  constructor
  · rintro ⟨v, hv, u, hu, rfl⟩
    obtain ⟨l, hl, rfl⟩ := mem_labelPattern_iff.mp hv
    obtain ⟨us, rfl, hus⟩ := Language.mem_kstar.mp hu
    -- each of the repeated words is a label and its point
    have hmore : ∃ ls : List (List Char), (∀ m ∈ ls, IsLabel m) ∧ us.flatten = pointed ls := by
      clear hu
      induction us with
      | nil => exact ⟨[], nofun, rfl⟩
      | cons u us ih =>
        obtain ⟨ls, hls, he⟩ := ih fun y hy => hus y (.tail _ hy)
        obtain ⟨m, hm, rfl⟩ := mem_labelPattern_iff.mp (hus _ (.head _))
        refine ⟨m :: ls, List.forall_mem_cons.mpr ⟨hm, hls⟩, ?_⟩
        rw [List.flatten_cons, he]
        rfl
    obtain ⟨ls, hls, he⟩ := hmore
    refine ⟨l :: ls, nofun, List.forall_mem_cons.mpr ⟨hl, hls⟩, ?_⟩
    rw [he]
    rfl
  · rintro ⟨labels, hne, hlabels, rfl⟩
    obtain ⟨l, ls, rfl⟩ := List.exists_cons_of_ne_nil hne
    obtain ⟨hl, hls⟩ := List.forall_mem_cons.mp hlabels
    refine ⟨l ++ ['.'], mem_labelPattern_iff.mpr ⟨l, hl, rfl⟩, pointed ls, ?_, rfl⟩
    refine Language.mem_kstar.mpr ⟨ls.map (· ++ ['.']), List.flatMap_def, fun v hv => ?_⟩
    obtain ⟨m, hm, rfl⟩ := List.mem_map.mp hv
    exact mem_labelPattern_iff.mpr ⟨m, hls m hm, rfl⟩

theorem mem_lastPattern_iff : w ∈ lastPattern ↔ IsLastLabel w := by
  simp only [lastPattern, Language.mem_mul, mem_kstar_one_iff, mem_one_iff]
  constructor
  · rintro ⟨_, ⟨_, ⟨c, hc, rfl⟩, _, ⟨d, hd, rfl⟩, rfl⟩, v, hv, rfl⟩
    refine ⟨Nat.le_add_left 2 v.length, ?_⟩
    exact List.forall_mem_cons.mpr ⟨hc, List.forall_mem_cons.mpr ⟨hd, hv⟩⟩
  · rintro ⟨hlength, h⟩
    match w, hlength, h with
    | c :: d :: v, _, h =>
      obtain ⟨hc, h⟩ := List.forall_mem_cons.mp h
      obtain ⟨hd, hv⟩ := List.forall_mem_cons.mp h
      exact ⟨[c, d], ⟨[c], ⟨c, hc, rfl⟩, [d], ⟨d, hd, rfl⟩, rfl⟩, v, hv, rfl⟩

theorem splitOn_pointed {labels : List (List Char)} {last : List Char}
    (hlabels : ∀ l ∈ labels, '.' ∉ l) (hlast : '.' ∉ last) :
    (pointed labels ++ last).splitOn '.' = labels ++ [last] := by
  induction labels with
  | nil => exact List.splitOn_eq_singleton hlast
  | cons l ls ih =>
    have htext : pointed (l :: ls) ++ last = l ++ '.' :: (pointed ls ++ last) := by
      simp [pointed]
    rw [htext, List.splitOn_append_cons_self_of_not_mem (hlabels l (.head _)),
      ih fun m hm => hlabels m (.tail _ hm)]
    rfl

theorem isDomain_iff : IsDomain cs ↔ ∃ labels last, cs = pointed labels ++ last ∧ labels ≠ [] ∧
    (∀ l ∈ labels, IsLabel l) ∧ IsLastLabel last := by
  have hsplit {labels : List (List Char)} {last : List Char} (hlabels : ∀ l ∈ labels, IsLabel l)
      (hlast : IsLastLabel last) : (pointed labels ++ last).splitOn '.' = labels ++ [last] :=
    splitOn_pointed (fun l hl hmem => ((hlabels l hl).2 _ hmem).ne.1 rfl)
      fun hmem => (hlast.2 _ hmem).isLabelChar.ne.1 rfl
  constructor
  · rintro ⟨labels, last, hcs, hne, hlabels, hlast⟩
    refine ⟨labels, last, ?_, hne, hlabels, hlast⟩
    rw [← @List.intercalate_splitOn _ cs _ _ '.', hcs, ← hsplit hlabels hlast,
      List.intercalate_splitOn]
  · rintro ⟨labels, last, rfl, hne, hlabels, hlast⟩
    exact ⟨labels, last, hsplit hlabels hlast, hne, hlabels, hlast⟩

/-- **The pattern matches addresses** and nothing else. -/
theorem mem_pattern_iff : text.toList ∈ pattern ↔ Address text := by
  have hfree {user : List Char} : (∀ c ∈ user, c ≠ '@') ↔ '@' ∉ user :=
    ⟨fun h hmem => h _ hmem rfl, fun h c hc he => h (he ▸ hc)⟩
  rw [address_iff, pattern]
  generalize text.toList = w
  simp only [Language.mem_mul, mem_labels_iff, mem_lastPattern_iff, mem_oneOrMore_one_iff, hfree,
    mem_one_iff, isDomain_iff]
  constructor
  · rintro ⟨_, ⟨_, ⟨user, ⟨hne, hat⟩, _, ⟨c, rfl, rfl⟩, rfl⟩, _, ⟨labels, hls, hlabels, rfl⟩, rfl⟩,
      last, hlast, rfl⟩
    refine ⟨user, pointed labels ++ last, by simp, hne, hat, labels, last, rfl, hls, hlabels, hlast⟩
  · rintro ⟨user, domain, rfl, hne, hat, labels, last, rfl, hls, hlabels, hlast⟩
    exact ⟨(user ++ ['@']) ++ pointed labels,
      ⟨user ++ ['@'], ⟨user, ⟨hne, hat⟩, ['@'], ⟨'@', rfl, rfl⟩, rfl⟩, pointed labels,
        ⟨labels, hls, hlabels, rfl⟩, rfl⟩, last, hlast, by simp⟩

/-! ### The rule -/

theorem address_append_iff {user domain : String} : Address (user ++ "@" ++ domain) ↔
    user ≠ "" ∧ '@' ∉ user.toList ∧ IsDomain domain.toList := by
  have htext : (user ++ "@" ++ domain).toList = user.toList ++ '@' :: domain.toList := by
    rw [String.toList_append, String.toList_append, List.append_assoc]
    rfl
  have hempty : user ≠ "" ↔ user.toList ≠ [] := not_congr String.toList_eq_nil_iff.symm
  rw [address_iff, htext, hempty]
  constructor
  · rintro ⟨user', domain', he, hne, hnot, hdomain⟩
    -- there is one `@` only, so both cuts are the same
    obtain ⟨rfl, -, rfl⟩ :=
      (List.append_cons_inj_of_notMem hnot hdomain.at_not_mem).mp he.symm
    exact ⟨hne, hnot, hdomain⟩
  · rintro ⟨hne, hnot, hdomain⟩
    exact ⟨_, _, rfl, hne, hnot, hdomain⟩

end Email

namespace Admission

open Email

theorem email_place {b : Breach} {n : Nat} {fault : FieldFault}
    (h : b.violation = .field ((Breach.itemPath "serviceAccounts" n).child "email") fault) :
    ∃ a, b = .email n a := by
  have hplace : b.place = ⟨6, n, 1⟩ := (placeOf_violation b).symm.trans (congrArg placeOf h)
  cases b <;> cases hplace
  exact ⟨_, rfl⟩

/-- **The rule for emails is exact.** Under the place of an account's email something is reported
exactly if there is such an account and its email is no address of the grammar. The grammar is the
pattern. The whole text counts: a line break at the end is refused, and so are blanks behind the
`@`, while before it everything but another `@` may stand. -/
theorem email_rule_exact :
    (∀ spec secret n,
      (∃ fault, .field ((Breach.itemPath "serviceAccounts" n).child "email") fault ∈
        violations spec secret) ↔
      ∃ a, spec.serviceAccounts[n]? = some a ∧ ¬ Address a.email) ∧
    (∀ text : String, text.toList ∈ pattern ↔ Address text) ∧
    (∀ text : String, ¬ Address (text ++ "\n")) ∧
    (∀ user domain, Address (user ++ "@" ++ domain) ↔
      user ≠ "" ∧ '@' ∉ user.toList ∧ IsDomain domain.toList) ∧
    ∀ domain, IsDomain domain → ∀ c ∈ domain, Text.isBlank c = false := by
  refine ⟨fun spec secret n => ?_, fun _ => mem_pattern_iff, fun text h => ?_,
    fun _ _ => address_append_iff, fun _ h => h.isBlank⟩
  · rw [violations_eq_map]
    constructor
    · rintro ⟨fault, hmem⟩
      obtain ⟨b, hb, hviolation⟩ := List.mem_map.mp hmem
      obtain ⟨a, rfl⟩ := email_place hviolation
      obtain ⟨ha, hemail⟩ := mem_breaches_iff.mp hb
      exact ⟨a, ha, fun haddress => ne_true_of_eq_false hemail (isAddress_iff.mpr haddress)⟩
    · rintro ⟨a, ha, hnot⟩
      have hemail : isAddress a.email = false := eq_false_of_ne_true (mt isAddress_iff.mp hnot)
      exact ⟨_, List.mem_map.mpr ⟨.email n a, mem_breaches_iff.mpr ⟨ha, hemail⟩, rfl⟩⟩
  · obtain ⟨user, domain, htext, -, -, hdomain⟩ := address_iff.mp h
    obtain ⟨domain, c, rfl⟩ := List.eq_nil_or_concat' domain |>.resolve_left hdomain.ne_nil
    have hends : text.toList ++ ['\n'] = (user ++ '@' :: domain) ++ [c] := by
      rw [List.append_assoc, List.cons_append, ← htext, String.toList_append]
      rfl
    cases (List.append_inj' hends rfl).2
    cases hdomain.isBlank _ (List.mem_append_right _ (.head _))

/-- A specification with an account whose email ends in a line break. -/
def brokenEmail : ProviderSpec :=
  { ProviderSpec.blank with serviceAccounts := [⟨"vm@p.iam" ++ "\n", []⟩] }

/-- It is reported, although what stands before the line break is an address. -/
theorem brokenEmail_reported :
    (∃ fault, .field ((Breach.itemPath "serviceAccounts" 0).child "email") fault ∈
      violations brokenEmail none) ∧
    Address ("vm" ++ "@" ++ "p.iam") ∧ ∀ c ∈ "p.iam".toList, Text.isBlank c = false := by
  obtain ⟨hreported, -, hbroken, haddress, hblank⟩ := email_rule_exact
  have hletters : ∀ c ∈ ['p', 'i', 'a', 'm'], IsLetter c := fun c hc =>
    isAlpha_iff.mp (List.all_eq_true.mp (rfl : ['p', 'i', 'a', 'm'].all Char.isAlpha = true) c hc)
  have hlabel : IsLabel ['p'] :=
    ⟨nofun, List.forall_mem_singleton.mpr (hletters 'p' (.head _)).isLabelChar⟩
  have hlast : IsLastLabel ['i', 'a', 'm'] := ⟨by decide, fun c hc => hletters c (.tail _ hc)⟩
  have hdomain : IsDomain "p.iam".toList :=
    ⟨[['p']], ['i', 'a', 'm'], by decide, nofun, List.forall_mem_singleton.mpr hlabel, hlast⟩
  exact ⟨(hreported _ none 0).mpr ⟨_, rfl, hbroken "vm@p.iam"⟩,
    (haddress "vm" "p.iam").mpr ⟨by decide, by decide, hdomain⟩, hblank _ hdomain⟩

end Admission

end GceMachines
