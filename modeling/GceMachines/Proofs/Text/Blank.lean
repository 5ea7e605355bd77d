import GceMachines.Text.Blank

/-!
# Texts without the blanks around them

Trimming cuts blanks off at the front, and then at the back of what is left. What stands between
the two cuts begins and ends with other characters, so nothing more could be cut off.

* `Trims`: what is left of a text without the blanks around it.
* `trim_trims`: trimming leaves that.
* `trim_eq_empty_iff`: nothing is left of a text of blanks only.
-/

namespace GceMachines.Text

/-- **What is left of a text without the blanks around it**: blanks are cut off at either end, and
what is left has none there. -/
structure Trims (text core : String) : Prop where
  around : ∃ before after, text.toList = before ++ core.toList ++ after ∧
    (∀ c ∈ before, isBlank c = true) ∧ ∀ c ∈ after, isBlank c = true
  front : ∀ c ∈ core.toList.head?, isBlank c = false
  back : ∀ c ∈ core.toList.getLast?, isBlank c = false

theorem isBlank_of_mem_takeWhile {cs : List Char} {c : Char} (h : c ∈ cs.takeWhile isBlank) :
    isBlank c = true :=
  List.all_eq_true.mp List.all_takeWhile c h

theorem isBlank_of_head?_dropWhile {cs : List Char} {c : Char}
    (h : (cs.dropWhile isBlank).head? = some c) : isBlank c = false := by
  have hfront := List.head?_dropWhile_not isBlank cs
  rw [h] at hfront
  simpa using hfront

theorem dropWhile_eq_trimChars_append (cs : List Char) : ∃ after,
    cs.dropWhile isBlank = trimChars cs ++ after ∧ ∀ c ∈ after, isBlank c = true := by
  refine ⟨((cs.dropWhile isBlank).reverse.takeWhile isBlank).reverse, ?_, fun c hc => ?_⟩
  · rw [trimChars, ← List.reverse_append, List.takeWhile_append_dropWhile, List.reverse_reverse]
  · exact isBlank_of_mem_takeWhile (List.mem_reverse.mp hc)

/-- **Trimming** leaves a text without the blanks around it. -/
theorem trim_trims (s : String) : Trims s (trim s) := by
  obtain ⟨after, hdrop, hafter⟩ := dropWhile_eq_trimChars_append s.toList
  have hcore : (trim s).toList = trimChars s.toList := String.toList_ofList
  constructor
  case around =>
    refine ⟨s.toList.takeWhile isBlank, after, ?_, fun c => isBlank_of_mem_takeWhile, hafter⟩
    rw [hcore, List.append_assoc, ← hdrop, List.takeWhile_append_dropWhile]
  case front =>
    intro c hc
    rw [hcore] at hc
    have hfront : (s.toList.dropWhile isBlank).head? = some c := by
      rw [hdrop, List.head?_append, Option.mem_def.mp hc]
      rfl
    exact isBlank_of_head?_dropWhile hfront
  case back =>
    intro c hc
    rw [hcore, trimChars, List.getLast?_reverse] at hc
    exact isBlank_of_head?_dropWhile hc

theorem trim_eq_empty_iff {s : String} : trim s = "" ↔ ∀ c ∈ s.toList, isBlank c = true := by
  constructor
  · intro h c hc
    obtain ⟨before, after, hs, hbefore, hafter⟩ := (trim_trims s).around
    rw [hs, h] at hc
    rcases List.mem_append.mp hc with hc | hc
    · exact hbefore c (by simpa using hc)
    · exact hafter c hc
  · exact fun h => trim_blank (List.all_eq_true.mpr h)

end GceMachines.Text
