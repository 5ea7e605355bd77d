/-!
# White space around a text

`isBlank` is the Unicode property White_Space, and `trim` cuts the characters that have it from
both ends of a text.

* `isBlank_of_isWhitespace`: every blank of the ASCII class is one of the property.
* `trim_blank`: a text of blanks trims to the empty text.
-/

namespace GceMachines.Text

/-- The characters with the Unicode property White_Space. -/
def isBlank (c : Char) : Bool :=
  let n := c.toNat
  (9 ≤ n && n ≤ 13) || n == 0x20 || n == 0x85 || n == 0xA0 || n == 0x1680 ||
    (0x2000 ≤ n && n ≤ 0x200A) || n == 0x2028 || n == 0x2029 || n == 0x202F || n == 0x205F ||
    n == 0x3000

theorem isBlank_of_isWhitespace {c : Char} (h : c.isWhitespace = true) : isBlank c = true := by
  simp only [Char.isWhitespace, Bool.or_eq_true, decide_eq_true_eq] at h
  rcases h with ((rfl | rfl) | rfl) | rfl <;> decide

/-- Characters without the blanks at either end. -/
def trimChars (cs : List Char) : List Char :=
  ((cs.dropWhile isBlank).reverse.dropWhile isBlank).reverse

/-- A text without the blanks at either end. -/
def trim (s : String) : String := String.ofList (trimChars s.toList)

theorem trim_blank {s : String} (h : s.toList.all isBlank = true) : trim s = "" := by
  have blank (cs : List Char) (h : cs.all isBlank = true) : cs.dropWhile isBlank = [] := by
    induction cs with
    | nil => rfl
    | cons c cs ih => simp_all
  simp [trim, trimChars, blank _ h]

end GceMachines.Text
