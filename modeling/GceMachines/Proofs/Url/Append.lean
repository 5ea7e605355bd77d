import GceMachines.Proofs.Url.Segments

/-!
# Addresses behind an address

An address that is extended keeps its path, less an empty segment at the end, and leads on along
one segment for each text. It does so exactly if the texts are plain; only the path of two empty
segments loses both of them. What is sent for two extensions of one address is the same only if
the texts are the same.

* `kept`, `LeadsTo`: what an extended address looks like.
* `append_eq`, `append_leadsTo_iff`: which texts it is extended by.
* `target_append_inj`: no two lists of plain texts have the same target.
-/

namespace GceMachines.Url

/-- **The segments that an address keeps**: its own, less an empty one at the end. -/
def kept (u : Url) : List String :=
  match u.path with
  | .segments ss => if ss.getLast? = some "" then ss.dropLast else ss
  | .plain _ => []

/-- **The way from an address to another**: the other has the kept segments and one for each text
behind them. Each of these gives its text back, and ends only where the next one begins. -/
def LeadsTo (base u : Url) (texts : List String) : Prop :=
  ∃ written : List String, u = { base with path := .segments (base.kept ++ written) } ∧
    written.map percentText? = texts.map some ∧
    ∀ w ∈ written, ∀ c ∈ ['/', '?', '#'], c ∉ w.toList

/-- Texts as they are written as segments. -/
def segmentTexts (scheme : String) (texts : List String) : List String :=
  texts.map (segmentText (isWeb scheme))

theorem percentText?_segmentTexts {scheme : String} {texts : List String}
    (h : ∀ t ∈ texts, IsPlain t) :
    (segmentTexts scheme texts).map percentText? = texts.map some := by
  rw [segmentTexts, List.map_map]
  exact List.map_congr_left fun t ht => percentText?_of_isPlain (h t ht)

theorem not_mem_segmentTexts {scheme : String} {texts : List String} {c : Char}
    (hc : c ∈ ['/', '?', '#']) : ∀ w ∈ segmentTexts scheme texts, c ∉ w.toList := by
  intro w hw
  obtain ⟨t, -, rfl⟩ := List.mem_map.mp hw
  exact not_mem_segmentText hc t

/-! ### Two empty segments -/

theorem front_of_ne {u : Url} {ss : List String} (hp : u.path = .segments ss)
    (h : ss ≠ ["", ""]) : front ss = u.kept := by
  unfold front trimmed kept
  rw [hp]
  dsimp only
  by_cases hl : ss.getLast? = some ""
  · rw [if_pos hl]
    match ss, hl with
    | [s], hl =>
      cases hl
      rfl
    | [s, t], hl =>
      cases hl
      have hs : s ≠ "" := by
        rintro rfl
        exact h rfl
      simp [hs]
    | s :: t :: r :: rs, hl => simp [hl]
  · rw [if_neg hl]
    simp only [hl, decide_false, Bool.and_false, Bool.false_eq_true, if_false]
    rw [if_neg]
    rintro rfl
    exact hl rfl

theorem front_two_empty : front ["", ""] = [] := rfl

/-! ### Extensions -/

section
variable {text : String} {u : Url} {ss : List String} {first : String} {texts : List String}

/-- What an address is extended with first. -/
structure Leading (scheme first : String) : Prop where
  plain : IsPlain first
  ne_empty : first ≠ ""
  no_drive : drive? (segmentText (isWeb scheme) first).toList = none

theorem append_eq_foldl (hs : Settled u.scheme ss) (hp : u.path = .segments ss)
    (hf : Leading u.scheme first) :
    u.append (first :: texts) = { u with path := .segments (texts.foldl (pushText u.scheme)
      (front ss ++ [segmentText (isWeb u.scheme) first])) } := by
  unfold append
  rw [hp]
  dsimp only
  rw [List.foldl_cons, pushText_trimmed hs hf.plain hf.ne_empty hf.no_drive]

theorem settled_first (hs : Settled u.scheme ss) (hf : Leading u.scheme first) :
    Settled u.scheme (front ss ++ [segmentText (isWeb u.scheme) first]) ∧
      front ss ++ [segmentText (isWeb u.scheme) first] ≠ [] ∧
      front ss ++ [segmentText (isWeb u.scheme) first] ≠ [""] := by
  have hne : segmentText (isWeb u.scheme) first ≠ "" := segmentText_ne_empty hf.plain hf.ne_empty
  refine ⟨?_, by simp, ?_⟩
  · rw [← pushText_trimmed hs hf.plain hf.ne_empty hf.no_drive]
    unfold pushText
    rw [if_neg (by simp [hf.plain.1, hf.plain.2.1])]
    exact settled_finish _ _
  · intro h
    rcases List.append_eq_singleton_iff.mp h with ⟨-, h⟩ | ⟨-, h⟩
    · exact hne (List.cons_eq_cons.mp h).1
    · cases h

/-- **An address extended by plain texts.** -/
theorem append_eq (hs : Settled u.scheme ss) (hp : u.path = .segments ss)
    (hf : Leading u.scheme first) (ht : ∀ t ∈ texts, IsPlain t) :
    u.append (first :: texts) = { u with path := .segments (
      front ss ++ segmentTexts u.scheme (first :: texts)) } := by
  obtain ⟨hset, hne, hplace⟩ := settled_first hs hf
  rw [append_eq_foldl hs hp hf, foldl_pushText_of_isPlain hset hne hplace ht, List.append_assoc]
  rfl

/-- **Exactly plain texts** are what an extended address leads to. -/
theorem append_leadsTo_iff (hs : Settled u.scheme ss) (hp : u.path = .segments ss)
    (hf : Leading u.scheme first) (hne : ∀ t ∈ texts, t ≠ "") :
    u.LeadsTo (u.append (first :: texts)) (first :: texts) ↔
      (∀ t ∈ texts, IsPlain t) ∧ ss ≠ ["", ""] := by
  constructor
  · rintro ⟨written, hw, hr, -⟩
    obtain ⟨hset, hne', hplace⟩ := settled_first hs hf
    rw [append_eq_foldl hs hp hf] at hw
    have hpath := Path.segments.inj (congrArg Url.path hw)
    have hlength : written.length = texts.length + 1 := by
      rw [← List.length_map percentText?, hr, List.length_map, List.length_cons]
    have hle := length_foldl_pushText_le u.scheme texts
      (front ss ++ [segmentText (isWeb u.scheme) first])
    rw [hpath, List.length_append, List.length_append, hlength, List.length_singleton] at hle
    have htwo : ss ≠ ["", ""] := by
      rintro rfl
      have hk : u.kept = [""] := by
        unfold kept
        rw [hp]
        rfl
      rw [front_two_empty, hk, List.length_singleton, List.length_nil] at hle
      omega
    have hfront := front_of_ne hp htwo
    have hgrown : (texts.foldl (pushText u.scheme)
        (front ss ++ [segmentText (isWeb u.scheme) first])).length =
        (front ss ++ [segmentText (isWeb u.scheme) first]).length + texts.length := by
      rw [hpath, hfront, List.length_append, List.length_append, List.length_singleton, hlength]
      omega
    obtain ⟨ws, hws, hall⟩ := foldl_pushText_of_length hset hne' hplace hgrown
    rw [hpath, hfront, List.append_assoc] at hws
    rw [List.append_cancel_left hws, List.singleton_append, List.map_cons, List.map_cons] at hr
    exact ⟨fun t ht => (hall (List.cons_eq_cons.mp hr).2 t ht).resolve_left (hne t ht), htwo⟩
  · rintro ⟨hplain, htwo⟩
    have hall : ∀ t ∈ first :: texts, IsPlain t := List.forall_mem_cons.mpr ⟨hf.plain, hplain⟩
    exact ⟨_, by rw [append_eq hs hp hf hplain, front_of_ne hp htwo],
      percentText?_segmentTexts hall, fun w hw c hc => not_mem_segmentTexts hc w hw⟩

end

/-! ### What is sent -/

theorem Path.toList_text (ws : List String) :
    (Path.segments ws).text.toList = ws.flatMap fun w => '/' :: w.toList := by
  unfold Path.text
  dsimp only
  induction ws with
  | nil => rfl
  | cons w ws ih =>
    rw [List.map_cons, String.join_cons, String.toList_append, ih, List.flatMap_cons]
    simp

theorem Path.not_mem_text {ws : List String} {c : Char} (hc : c ≠ '/')
    (h : ∀ w ∈ ws, c ∉ w.toList) : c ∉ (Path.segments ws).text.toList := by
  rw [Path.toList_text, List.mem_flatMap]
  rintro ⟨w, hw, hmem⟩
  exact h w hw ((List.mem_cons.mp hmem).resolve_left hc)

theorem splitOn_text {ws : List String} (h : ∀ w ∈ ws, '/' ∉ w.toList) :
    (Path.segments ws).text.toList.splitOn '/' = [] :: ws.map String.toList := by
  rw [Path.toList_text, ← List.nil_append (ws.flatMap _), ← List.flatMap_map String.toList,
    ← Text.intercalate_singleton_cons]
  refine List.splitOn_intercalate '/' ?_ (by simp)
  intro p hp
  rcases List.mem_cons.mp hp with rfl | hp
  · simp
  · obtain ⟨w, hw, rfl⟩ := List.mem_map.mp hp
    exact h w hw

theorem takeWhile_append_query {cs : List Char} (h : '?' ∉ cs) (q : Option String) :
    (cs ++ ((q.map ("?" ++ ·)).getD "").toList).takeWhile (· ≠ '?') = cs := by
  rw [List.takeWhile_append_of_pos fun c hc => by
    simpa using fun e : c = '?' => h (e ▸ hc)]
  cases q <;> simp

/-- **No two lists of plain texts** have the same target behind an address, whatever the query. -/
theorem target_append_inj {u : Url} {ss : List String} {first : String} {texts texts' : List String}
    (hs : Settled u.scheme ss) (hp : u.path = .segments ss) (hf : Leading u.scheme first)
    (ht : ∀ t ∈ texts, IsPlain t) (ht' : ∀ t ∈ texts', IsPlain t) {q q' : Option String}
    (h : { u.append (first :: texts) with query := q }.target =
      { u.append (first :: texts') with query := q' }.target) : texts = texts' := by
  have hquery (ts : List String) :
      '?' ∉ (Path.segments (segmentTexts u.scheme ts)).text.toList :=
    Path.not_mem_text (by decide) (not_mem_segmentTexts (by decide))
  have htarget (ts : List String) (q : Option String) (hts : ∀ t ∈ ts, IsPlain t) :
      { u.append (first :: ts) with query := q }.target.toList =
        (Path.segments (front ss)).text.toList ++
          ((Path.segments (segmentTexts u.scheme (first :: ts))).text.toList ++
            ((q.map ("?" ++ ·)).getD "").toList) := by
    rw [append_eq hs hp hf hts]
    simp only [target, Path.toList_text, List.flatMap_append, String.toList_append,
      List.append_assoc]
  -- Behind the front that both have, the text up to the query is cut at its slashes.
  have hsame := congrArg String.toList h
  rw [htarget texts q ht, htarget texts' q' ht'] at hsame
  have hpath : (Path.segments (segmentTexts u.scheme (first :: texts))).text.toList =
      (Path.segments (segmentTexts u.scheme (first :: texts'))).text.toList := by
    rw [← takeWhile_append_query (hquery (first :: texts)) q,
      ← takeWhile_append_query (hquery (first :: texts')) q', List.append_cancel_left hsame]
  have hsegments := congrArg (List.splitOn '/') hpath
  rw [splitOn_text (not_mem_segmentTexts (by decide)),
    splitOn_text (not_mem_segmentTexts (by decide))] at hsegments
  have hwritten :
      segmentTexts u.scheme (first :: texts) = segmentTexts u.scheme (first :: texts') :=
    (List.map_inj_right fun _ _ => String.toList_inj.mp).mp (List.cons_eq_cons.mp hsegments).2
  have hread : (segmentTexts u.scheme texts).map percentText? =
      (segmentTexts u.scheme texts').map percentText? :=
    congrArg (List.map percentText?) (List.cons_eq_cons.mp hwritten).2
  rw [percentText?_segmentTexts ht, percentText?_segmentTexts ht'] at hread
  exact (List.map_inj_right fun _ _ => Option.some.inj).mp hread

end GceMachines.Url
