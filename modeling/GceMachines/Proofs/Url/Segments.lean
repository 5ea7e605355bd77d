import GceMachines.Proofs.Url.Percent
import GceMachines.Url.Parser

/-!
# Segments behind a path

A text that is put behind a path becomes one segment that gives it back, unless it names a place
or holds characters that do not count. One that is not plain leaves the path as short as it was, or
leaves a segment that stands for another text. So a path has grown by all the texts put behind it
exactly if all of them are plain.

* `IsPlain`: a text that becomes a segment of its own.
* `pushText_of_isPlain`, `pushText_cases`: one text behind a path.
* `foldl_pushText_of_isPlain`, `foldl_pushText_of_length`: several of them.
* `settled_of_parse`: the path of an address is one that more segments can be put behind.
-/

namespace GceMachines.Url

/-- **A text that becomes a segment of its own**: it names no place, and all its characters
count. -/
def IsPlain (s : String) : Prop := s ≠ "." ∧ s ≠ ".." ∧ ∀ c ∈ s.toList, isIgnored c = false

instance (s : String) : Decidable (IsPlain s) :=
  @instDecidableAnd _ _ inferInstance (@instDecidableAnd _ _ inferInstance (List.decidableBAll _ _))

/-! ### What is written -/

/-- The characters of a text that count. -/
def counting (s : String) : String := String.ofList (s.toList.filter (!isIgnored ·))

theorem counting_eq_self_iff {s : String} :
    counting s = s ↔ ∀ c ∈ s.toList, isIgnored c = false := by
  rw [counting, ← String.toList_inj, String.toList_ofList, List.filter_eq_self]
  simp

variable {web : Bool}

/-- **A segment gives back** the characters of its text that count. -/
theorem percentText?_segmentText (s : String) :
    percentText? (segmentText web s) = some (counting s) := by
  refine percentText?_percentEncode ?_ _
  cases web
  · exact readable_printableBut (by decide)
  · exact readable_printableBut (by decide)

theorem percentText?_of_isPlain {s : String} (h : IsPlain s) :
    percentText? (segmentText web s) = some s := by
  rw [percentText?_segmentText, counting_eq_self_iff.mpr h.2.2]

theorem not_mem_segmentText {c : Char} (h : c ∈ ['/', '?', '#']) (s : String) :
    c ∉ (segmentText web s).toList := by
  simp only [List.mem_cons, List.not_mem_nil, or_false] at h
  have hne : c ≠ '%' ∧ ∀ n : Fin 16, c ≠ upperHex n := by
    rcases h with rfl | rfl | rfl <;> decide
  have hesc : c ∈ pathEscapes ++ ['/', '%'] ∧ c ∈ pathEscapes ++ ['/', '%', '\\'] := by
    rcases h with rfl | rfl | rfl <;> decide
  refine not_mem_percentEncode ?_ hne.1 hne.2 _
  cases web
  · exact ne_of_printableBut hesc.1
  · exact ne_of_printableBut hesc.2

theorem percentDecode_of_isDot {w : String} (h : isDot w = true) :
    percentDecode (Utf8.encode w) = Utf8.encode "." ∨
      percentDecode (Utf8.encode w) = Utf8.encode ".." := by
  simp only [isDot, isDoubleDot, isSingleDot, Bool.or_eq_true, decide_eq_true_eq, List.mem_cons,
    List.not_mem_nil, or_false] at h
  simp only [Utf8.encode_eq_flatMap]
  rcases h with h | h
  · right
    rcases h with rfl | rfl | rfl | rfl | rfl | rfl | rfl | rfl | rfl <;> decide
  · left
    rcases h with rfl | rfl | rfl <;> decide

theorem isDot_segmentText_of_isPlain {s : String} (h : IsPlain s) :
    isDot (segmentText web s) = false := by
  refine Bool.eq_false_iff.mpr fun hd => ?_
  have hread : Utf8.decode? (percentDecode (Utf8.encode (segmentText web s))) = some s :=
    percentText?_of_isPlain h
  rcases percentDecode_of_isDot hd with hp | hp
  · rw [hp, Utf8.decode?_encode] at hread
    exact h.1 (Option.some.inj hread).symm
  · rw [hp, Utf8.decode?_encode] at hread
    exact h.2.1 (Option.some.inj hread).symm

theorem segmentText_ne_empty {s : String} (h : IsPlain s) (hne : s ≠ "") :
    segmentText web s ≠ "" := by
  intro he
  have hread : percentText? (segmentText web s) = some s := percentText?_of_isPlain h
  rw [he, percentText?_empty] at hread
  exact hne (Option.some.inj hread).symm

/-! ### One text behind a path -/

/-- A path that is left as it is when it is finished. -/
def Settled (scheme : String) (ss : List String) : Prop := (appending scheme).finish ss = ss

theorem finish_of_head {f : Filling} {s : String} {r : List String} (h : s ≠ "") :
    f.finish (s :: r) = s :: r := by
  unfold Filling.finish
  split
  · rw [List.dropWhile_cons_of_neg (by simpa using h)]
  · rfl

theorem finish_cases (f : Filling) (ss : List String) :
    f.file = false ∧ f.finish ss = ss ∨ f.finish ss = [""] ∨
      ∃ s r, f.finish ss = s :: r ∧ s ≠ "" := by
  cases hf : f.file with
  | false => exact .inl ⟨rfl, by simp [Filling.finish, hf]⟩
  | true =>
    right
    unfold Filling.finish
    rw [hf, if_pos rfl]
    cases hd : ss.dropWhile (· = "") with
    | nil => exact .inl rfl
    | cons s r =>
      have hs := List.head?_dropWhile_not (· = "") ss
      rw [hd] at hs
      exact .inr ⟨s, r, rfl, by simpa using hs⟩

theorem settled_finish (scheme : String) (ss : List String) :
    Settled scheme ((appending scheme).finish ss) := by
  unfold Settled
  rcases finish_cases (appending scheme) ss with ⟨-, h⟩ | h | ⟨s, r, h, hs⟩
  · rw [h, h]
  · rw [h]
    unfold Filling.finish
    split <;> rfl
  · rw [h, finish_of_head hs]

theorem length_finish_le (f : Filling) {ss : List String} (h : ss ≠ []) :
    (f.finish ss).length ≤ ss.length := by
  unfold Filling.finish
  split
  · have hpos : 0 < ss.length := List.length_pos_iff.mpr h
    split
    · exact hpos
    · exact (List.dropWhile_sublist _).length_le
  · exact Nat.le_refl _

theorem finish_append_of_settled {scheme : String} {ss more : List String}
    (hs : Settled scheme ss) (hplace : ss ≠ [""]) :
    (appending scheme).finish (ss ++ more) = ss ++ more := by
  rcases finish_cases (appending scheme) ss with ⟨hf, -⟩ | h | ⟨s, r, h, hse⟩
  · simp [Filling.finish, hf]
  · exact absurd (hs.symm.trans h) hplace
  · rw [hs.symm.trans h, List.cons_append, finish_of_head hse]

variable {scheme : String} {ss : List String}

theorem parent_cases (ss : List String) : parent ss = ss ∨ parent ss = ss.dropLast := by
  unfold parent
  split
  · split
    · exact .inl rfl
    · exact .inr rfl
  · exact .inl rfl

theorem written_of_ne_nil (f : Filling) (hne : ss ≠ []) (w : String) : f.written ss w = w := by
  unfold Filling.written
  rw [List.isEmpty_eq_false_iff.mpr hne, Bool.and_false]
  split <;> rfl

/-- **What a text makes of a path** that holds a segment: nothing, one more segment as it is
written, one more place, or a path that is no longer. -/
theorem pushText_cases (hs : Settled scheme ss) (hne : ss ≠ []) (hplace : ss ≠ [""]) (s : String) :
    pushText scheme ss s = ss ∧ (s = "." ∨ s = "..") ∨
      pushText scheme ss s = ss ++ [segmentText (isWeb scheme) s] ∧ s ≠ "." ∧ s ≠ ".." ∨
      isDot (segmentText (isWeb scheme) s) = true ∧
        (pushText scheme ss s = ss ++ [""] ∨ (pushText scheme ss s).length ≤ ss.length) := by
  unfold pushText
  by_cases hdots : s = "." ∨ s = ".."
  · rw [if_pos (by simpa using hdots)]
    exact .inl ⟨rfl, hdots⟩
  · obtain ⟨h1, h2⟩ := not_or.mp hdots
    rw [if_neg (by simpa using hdots), opened, if_neg hplace]
    generalize hw : segmentText (isWeb scheme) s = w
    unfold put
    dsimp only
    rw [List.dropLast_concat]
    right
    by_cases hd : isDoubleDot w = true
    · rw [if_pos hd]
      refine .inr ⟨by simp [isDot, hd], ?_⟩
      rcases parent_cases ss with hp | hp
      · rw [hp]
        exact .inl (finish_append_of_settled hs hplace)
      · right
        have hpos := List.length_pos_iff.mpr hne
        rw [hp]
        refine Nat.le_trans (length_finish_le _ (by simp)) ?_
        rw [List.length_append, List.length_dropLast, List.length_singleton]
        omega
    · rw [if_neg hd]
      by_cases hd' : isSingleDot w = true
      · rw [if_pos hd']
        exact .inr ⟨by simp [isDot, hd'], .inl (finish_append_of_settled hs hplace)⟩
      · rw [if_neg hd']
        rw [written_of_ne_nil _ hne]
        exact .inl ⟨finish_append_of_settled hs hplace, h1, h2⟩

theorem length_put_le (f : Filling) (ss : List String) (w : String) :
    put f ss w ≠ [] ∧ (put f ss w).length ≤ ss.dropLast.length + 1 := by
  unfold put
  dsimp only
  split
  · rcases parent_cases ss.dropLast with hp | hp
    · simp [hp]
    · simp [hp]
  · split <;> simp

theorem length_pushText_le (scheme : String) (ss : List String) (s : String) :
    (pushText scheme ss s).length ≤ ss.length + 1 := by
  unfold pushText
  split
  · exact Nat.le_succ _
  · obtain ⟨hne, hle⟩ := length_put_le (appending scheme) (opened ss) (segmentText (isWeb scheme) s)
    refine Nat.le_trans (length_finish_le _ hne) (Nat.le_trans hle ?_)
    unfold opened
    split <;> simp

/-! ### Several texts behind a path -/

theorem length_foldl_pushText_le (scheme : String) (names ss : List String) :
    (names.foldl (pushText scheme) ss).length ≤ ss.length + names.length := by
  induction names generalizing ss with
  | nil => exact Nat.le_refl _
  | cons n names ih =>
    have h := ih (pushText scheme ss n)
    have hn := length_pushText_le scheme ss n
    rw [List.foldl_cons, List.length_cons]
    omega

/-- **Plain texts are put one behind the other.** -/
theorem foldl_pushText_of_isPlain {names : List String} (hs : Settled scheme ss) (hne : ss ≠ [])
    (hplace : ss ≠ [""]) (hp : ∀ n ∈ names, IsPlain n) :
    names.foldl (pushText scheme) ss = ss ++ names.map (segmentText (isWeb scheme)) := by
  induction names generalizing ss with
  | nil => simp
  | cons n names ih =>
    have hn := hp n (.head _)
    have hpush : pushText scheme ss n = ss ++ [segmentText (isWeb scheme) n] := by
      rcases pushText_cases hs hne hplace n with ⟨-, h | h⟩ | ⟨h, -, -⟩ | ⟨h, -⟩
      · exact absurd h hn.1
      · exact absurd h hn.2.1
      · exact h
      · rw [isDot_segmentText_of_isPlain hn] at h
        cases h
    rw [List.foldl_cons, hpush, ih (finish_append_of_settled hs hplace) (by simp)
      (by simp [List.append_eq_cons_iff, hne]) fun m hm => hp m (.tail _ hm)]
    simp

/-- **A path that has grown by every text** has a segment for each. They give their texts back only
if those are plain. -/
theorem foldl_pushText_of_length {names : List String} (hs : Settled scheme ss) (hne : ss ≠ [])
    (hplace : ss ≠ [""])
    (hl : (names.foldl (pushText scheme) ss).length = ss.length + names.length) :
    ∃ ws, names.foldl (pushText scheme) ss = ss ++ ws ∧
      (ws.map percentText? = names.map some → ∀ n ∈ names, n = "" ∨ IsPlain n) := by
  induction names generalizing ss with
  | nil => exact ⟨[], by simp, fun _ => nofun⟩
  | cons n names ih =>
    have hle := length_foldl_pushText_le scheme names (pushText scheme ss n)
    rw [List.foldl_cons, List.length_cons] at hl
    obtain ⟨w, hw, hread⟩ : ∃ w, pushText scheme ss n = ss ++ [w] ∧
        (percentText? w = some n → n = "" ∨ IsPlain n) := by
      rcases pushText_cases hs hne hplace n with ⟨h, -⟩ | ⟨h, h1, h2⟩ | ⟨-, h | h⟩
      · rw [h] at hle hl
        omega
      · refine ⟨_, h, fun hr => .inr ⟨h1, h2, ?_⟩⟩
        rw [percentText?_segmentText] at hr
        exact counting_eq_self_iff.mp (Option.some.inj hr)
      · refine ⟨_, h, fun hr => .inl ?_⟩
        rw [percentText?_empty] at hr
        exact (Option.some.inj hr).symm
      · omega
    have hgrown : (names.foldl (pushText scheme) (ss ++ [w])).length =
        (ss ++ [w]).length + names.length := by
      rw [← hw, hl, hw, List.length_append, List.length_singleton]
      omega
    obtain ⟨ws, hws, hall⟩ := ih (finish_append_of_settled hs hplace) (by simp)
      (by simp [List.append_eq_cons_iff, hne]) hgrown
    refine ⟨w :: ws, ?_, fun hr => ?_⟩
    · rw [List.foldl_cons, hw, hws, List.append_assoc, List.singleton_append]
    · obtain ⟨hn, hns⟩ := List.cons_eq_cons.mp hr
      exact List.forall_mem_cons.mpr ⟨hread hn, hall hns⟩

/-! ### The first text -/

/-- The segments in front of those that are put behind a path: an empty one at the end is the
place of the first of them. -/
def front (ss : List String) : List String := if trimmed ss = [""] then [] else trimmed ss

theorem settled_trimmed (hs : Settled scheme ss) : Settled scheme (trimmed ss) := by
  unfold trimmed
  split
  · next hc =>
    simp only [Bool.and_eq_true, decide_eq_true_eq] at hc
    rcases finish_cases (appending scheme) ss with ⟨hf, -⟩ | h | ⟨s, r, h, hse⟩
    · simp [Settled, Filling.finish, hf]
    · rw [hs.symm.trans h] at hc
      exact absurd hc.1 (by decide)
    · cases r with
      | nil =>
        rw [hs.symm.trans h] at hc
        exact absurd hc.1 (by simp)
      | cons t r =>
        rw [hs.symm.trans h, List.dropLast_cons_cons]
        exact finish_of_head hse
  · exact hs

/-- **The first text behind a path**, if it is no drive. -/
theorem pushText_trimmed {n : String} (hs : Settled scheme ss) (hp : IsPlain n) (hn : n ≠ "")
    (hd : drive? (segmentText (isWeb scheme) n).toList = none) :
    pushText scheme (trimmed ss) n = front ss ++ [segmentText (isWeb scheme) n] := by
  have hdot : isDot (segmentText (isWeb scheme) n) = false := isDot_segmentText_of_isPlain hp
  have hplace : (opened (trimmed ss)).dropLast = front ss := by
    unfold opened front
    split
    · next h => rw [h]; rfl
    · exact List.dropLast_concat
  simp only [isDot, Bool.or_eq_false_iff] at hdot
  have hput : put (appending scheme) (opened (trimmed ss)) (segmentText (isWeb scheme) n) =
      front ss ++ [segmentText (isWeb scheme) n] := by
    unfold put
    dsimp only
    rw [hdot.1, hdot.2, hplace, Filling.written, hd]
    rfl
  unfold pushText
  rw [if_neg (by simp [hp.1, hp.2.1])]
  dsimp only
  rw [hput, front]
  split
  · exact finish_of_head (segmentText_ne_empty hp hn)
  · next h => exact finish_append_of_settled (settled_trimmed hs) h

/-! ### The path of an address that is read -/

theorem settled_of_ne_file {scheme : String} (h : scheme ≠ "file") (ss : List String) :
    Settled scheme ss := by
  simp [Settled, Filling.finish, appending, h]

theorem withAuthority_eq_ok {scheme : String} {web : Bool} {cs : List Char} {u : Url}
    (h : withAuthority scheme web cs = .ok u) :
    u.scheme = scheme ∧ (∃ ss, u.path = .segments ss) ∧ ∃ text host, u.host = some host ∧
      (if web then Host.parse text else Host.parseOther text) = .ok host := by
  unfold withAuthority at h
  simp only [bind, Except.bind, pure, Except.pure, throw, throwThe, MonadExceptOf.throw] at h
  repeat' split at h
  all_goals cases h
  · next hw _ _ hhost _ _ _ _ => exact ⟨rfl, ⟨_, rfl⟩, _, _, rfl, (if_pos hw).trans hhost⟩
  · next hw _ _ hhost _ _ _ _ => exact ⟨rfl, ⟨_, rfl⟩, _, _, rfl, (if_neg hw).trans hhost⟩

theorem scheme_of_otherAddress {scheme : String} {cs : List Char} {u : Url}
    (h : otherAddress scheme cs = .ok u) : u.scheme = scheme := by
  unfold otherAddress at h
  dsimp only at h
  split at h
  · exact (withAuthority_eq_ok h).1
  · cases h
    unfold hostless
    split <;> rfl
  · cases h
    rfl

/-- The address of a file, with a path that is finished. -/
def Filed (u : Url) : Prop :=
  u.scheme = "file" ∧ ∃ ss, u.path = .segments ((appending "file").finish ss)

theorem filed_filePath (cs : List Char) : Filed (filePath cs) := ⟨rfl, _, rfl⟩

theorem filed_drivePath (cs : List Char) : Filed (drivePath cs) := ⟨rfl, _, rfl⟩

theorem filed_hostedPath (host : Host) (cs : List Char) : Filed (hostedPath host cs) :=
  ⟨rfl, _, rfl⟩

theorem filed_of_fileAddress {cs : List Char} {u : Url} (h : fileAddress cs = .ok u) : Filed u := by
  unfold fileAddress at h
  simp only [bind, Except.bind, pure, Except.pure] at h
  repeat' split at h
  all_goals cases h
  all_goals first
    | exact filed_filePath _
    | exact filed_drivePath _
    | exact filed_hostedPath _ _

/-- **The path of an address** is one that more segments can be put behind. -/
theorem settled_of_parse {text : String} {u : Url} (h : parse text = .ok u) {ss : List String}
    (hp : u.path = .segments ss) : Settled u.scheme ss := by
  unfold parse at h
  split at h
  · cases h
  · next scheme rest _ =>
    split at h
    · obtain ⟨hscheme, ss', hpath⟩ := filed_of_fileAddress h
      rw [hp] at hpath
      cases hpath
      rw [hscheme]
      exact settled_finish "file" ss'
    · next hne =>
      have hscheme : u.scheme = scheme := by
        split at h
        · exact (withAuthority_eq_ok h).1
        · exact scheme_of_otherAddress h
      exact settled_of_ne_file (hscheme ▸ hne) ss

end GceMachines.Url
