/-!
# Parts of texts

Texts are cut at a character, searched for another text, and joined again.

* `splitOn`: the parts between the occurrences of a character; there is always at least one.
* `contains`: whether one text stands somewhere in another.
* `splitOn_eq_iff`: the parts, joined by the character, give the text back, and no other parts
  without the character do.
-/

namespace GceMachines.Text

theorem intercalate_singleton_cons (sep : Char) (p : List Char) (ps : List (List Char)) :
    [sep].intercalate (p :: ps) = p ++ ps.flatMap (sep :: ·) := by
  induction ps generalizing p with
  | nil => simp
  | cons q ps ih => simp [List.intercalate_cons_cons, ih]

theorem not_mem_of_mem_splitOn {sep : Char} {cs p : List Char} (h : p ∈ cs.splitOn sep) :
    sep ∉ p := by
  induction cs generalizing p with
  | nil => simp_all
  | cons c cs ih =>
    rw [List.splitOn_cons_eq_if_modifyHead] at h
    obtain ⟨q, qs, hs⟩ := List.exists_cons_of_ne_nil (List.splitOn_ne_nil sep cs)
    rw [hs] at h ih
    split at h
    case isTrue =>
      rcases List.mem_cons.1 h with rfl | h
      · exact List.not_mem_nil
      · exact ih h
    case isFalse hc =>
      rcases List.mem_cons.1 h with rfl | h
      · have hne : c ≠ sep := by simpa using hc
        exact List.not_mem_cons_of_ne_of_not_mem hne.symm (ih (.head _))
      · exact ih (.tail _ h)

/-- **The parts of characters** are the only ones without `sep` that are joined to them. -/
theorem splitOn_chars_eq_iff {sep : Char} {cs : List Char} {ps : List (List Char)} :
    cs.splitOn sep = ps ↔ ps ≠ [] ∧ (∀ p ∈ ps, sep ∉ p) ∧ [sep].intercalate ps = cs := by
  constructor
  · rintro rfl
    exact ⟨List.splitOn_ne_nil sep cs, fun _ => not_mem_of_mem_splitOn,
      List.intercalate_splitOn sep⟩
  · rintro ⟨hne, hfree, rfl⟩
    exact List.splitOn_intercalate sep hfree hne

/-- The parts of a text between the occurrences of a character. -/
def splitOn (sep : Char) (s : String) : List String :=
  (s.toList.splitOn sep).map String.ofList

theorem splitOn_eq_iff {sep : Char} {s : String} {ps : List String} :
    splitOn sep s = ps ↔ ps ≠ [] ∧ (∀ p ∈ ps, sep ∉ p.toList) ∧
      [sep].intercalate (ps.map String.toList) = s.toList := by
  have hparts : splitOn sep s = ps ↔ s.toList.splitOn sep = ps.map String.toList := by
    unfold splitOn
    constructor
    · rintro rfl
      simp [Function.comp_def]
    · intro h
      simp [h, Function.comp_def]
  rw [hparts, splitOn_chars_eq_iff, List.forall_mem_map]
  simp

/-- The part before the first occurrence of a character and the part after it. -/
def splitOnce? (sep : Char) (s : String) : Option (String × String) :=
  match s.toList.dropWhile (· ≠ sep) with
  | [] => none
  | _ :: rest => some (String.ofList (s.toList.takeWhile (· ≠ sep)), String.ofList rest)

/-- What follows a given beginning of a text. -/
def dropBeginning? (beginning s : String) : Option String :=
  if beginning.toList <+: s.toList then
    some (String.ofList (s.toList.drop beginning.toList.length))
  else none

theorem dropBeginning?_eq_some_iff {beginning s rest : String} :
    dropBeginning? beginning s = some rest ↔ beginning ++ rest = s := by
  unfold dropBeginning?
  constructor
  · intro h
    split at h
    · next hp =>
      cases h
      apply String.toList_inj.mp
      rw [String.toList_append, String.toList_ofList]
      exact List.prefix_iff_eq_append.mp hp
    · cases h
  · rintro rfl
    simp

/-- Whether a text begins with another. -/
def startsWith (s beginning : String) : Bool := beginning.toList.isPrefixOf s.toList

/-- Whether characters stand together somewhere in others. -/
def containsChars (needle : List Char) : List Char → Bool
  | [] => needle.isEmpty
  | c :: cs => needle.isPrefixOf (c :: cs) || containsChars needle cs

theorem containsChars_iff {needle cs : List Char} :
    containsChars needle cs = true ↔ needle <:+: cs := by
  induction cs with
  | nil => simp [containsChars]
  | cons c cs ih =>
    rw [List.infix_cons_iff]
    simp [containsChars, ih]

/-- Whether one text stands somewhere in another. -/
def contains (s needle : String) : Bool := containsChars needle.toList s.toList

end GceMachines.Text
