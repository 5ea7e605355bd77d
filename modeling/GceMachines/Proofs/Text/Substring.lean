import GceMachines.Text.Split

/-!
# Texts inside texts

One text stands somewhere in another if its characters stand there together. A text that is put
in front adds no such place unless it has the first character that is looked for.

* `contains_iff`: the test, as a property of the characters.
* `infix_append_iff`: a text in front that lacks the first character.
* `infix_append_cons_iff`: a text that lacks a character of the other.
* `splitOnce?_append`: a text that is cut at a character.
-/

namespace GceMachines.Text

theorem contains_iff {s needle : String} :
    contains s needle = true ↔ needle.toList <:+: s.toList := containsChars_iff

/-- **A text in front without the first character looked for** adds no place. -/
theorem infix_append_iff {α : Type} {c : α} {needle front s : List α} (h : c ∉ front) :
    c :: needle <:+: front ++ s ↔ c :: needle <:+: s := by
  induction front with
  | nil => rfl
  | cons a front ih =>
    obtain ⟨hne, hrest⟩ := not_or.mp (mt List.mem_cons.mpr h)
    rw [List.cons_append, List.infix_cons_iff, ih hrest]
    constructor
    · rintro (hp | hi)
      · exact absurd (List.cons_prefix_cons.mp hp).1 hne
      · exact hi
    · exact .inr

variable {α : Type} {c : α} {needle xs ys : List α}

theorem prefix_append_cons_iff (h : c ∉ needle) : needle <+: xs ++ c :: ys ↔ needle <+: xs := by
  induction xs generalizing needle with
  | nil =>
    cases needle with
    | nil => simp
    | cons d needle =>
      rw [List.nil_append, List.cons_prefix_cons]
      exact iff_of_false (fun hp => h (hp.1 ▸ .head _)) (by simp)
  | cons x xs ih =>
    cases needle with
    | nil => simp
    | cons d needle =>
      rw [List.cons_append, List.cons_prefix_cons, List.cons_prefix_cons,
        ih fun hc => h (.tail _ hc)]

/-- **What lacks a character** stands on one side of it. -/
theorem infix_append_cons_iff (h : c ∉ needle) :
    needle <:+: xs ++ c :: ys ↔ needle <:+: xs ∨ needle <:+: ys := by
  induction xs with
  | nil =>
    rw [List.nil_append, List.infix_cons_iff, List.infix_nil, ← List.nil_append (c :: ys),
      prefix_append_cons_iff h, List.prefix_nil]
  | cons x xs ih =>
    rw [List.cons_append, List.infix_cons_iff, ih, List.infix_cons_iff, ← List.cons_append,
      prefix_append_cons_iff h, or_assoc]

/-- **A text that is cut once**, at the first occurrence of a character. -/
theorem splitOnce?_append {sep : Char} {front : String} (h : sep ∉ front.toList) (back : String) :
    splitOnce? sep (front ++ String.singleton sep ++ back) = some (front, back) := by
  have hfront : ∀ c ∈ front.toList, decide (c ≠ sep) = true := by
    intro c hc
    exact decide_eq_true fun e => h (e ▸ hc)
  rw [splitOnce?, String.toList_append, String.toList_append, List.append_assoc,
    List.dropWhile_append_of_pos hfront, List.takeWhile_append_of_pos hfront]
  simp

end GceMachines.Text
