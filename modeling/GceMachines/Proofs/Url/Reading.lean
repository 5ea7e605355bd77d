import GceMachines.Proofs.Text.Substring
import GceMachines.Proofs.Url.Append

/-!
# Targets taken apart

Whoever is asked for a target knows the path of its own address. What follows that path, less the
slashes at its end, is cut at its slashes, and the parts that are not empty stand for the texts that
the address was extended by. The query is cut into the pairs of a form.

* `Url.stem`: a path less the slashes at its end.
* `segments?`, `pairs`: what a target says behind a path.
* `target_append_read`: an extended address is read as it was made.
* `web_of_parse`: an address of the web has a host and a path of segments.
-/

namespace GceMachines.Url

/-! ### Behind a path -/

/-- Segments less the empty ones at the end. -/
def stem (ss : List String) : List String := (ss.reverse.dropWhile (· = "")).reverse

/-- A path as it is written, less the slashes at its end. -/
def stemText (u : Url) : String :=
  match u.path with
  | .segments ss => (Path.segments (stem ss)).text
  | .plain s => s

/-- What stands in front of a query. -/
def beforeQuery (rest : String) : String := String.ofList (rest.toList.takeWhile (· ≠ '?'))

/-- The query behind a path. -/
def queryOf (rest : String) : String := String.ofList ((rest.toList.dropWhile (· ≠ '?')).drop 1)

/-- **The texts of the segments** behind a path. Empty ones count for nothing. -/
def segments? (rest : String) : Option (List String) :=
  match Text.splitOn '/' (beforeQuery rest) with
  | "" :: parts => (parts.filter (· ≠ "")).mapM percentText?
  | _ => none

/-- **The pairs of a query.** A pair that stands for no texts does not count. -/
def pairs (query : String) : List (String × String) :=
  (Text.splitOn '&' query).filterMap fun part => do
    let (key, value) ← Text.splitOnce? '=' part
    return (← formText? key, ← formText? value)

/-! ### Segments -/

theorem exists_stem (ss : List String) : ∃ n, ss = stem ss ++ List.replicate n "" := by
  refine ⟨(ss.reverse.takeWhile (· = "")).length, ?_⟩
  have hempty : ss.reverse.takeWhile (· = "") =
      List.replicate (ss.reverse.takeWhile (· = "")).length "" :=
    List.eq_replicate_of_mem fun s hs => by simpa using List.all_eq_true.mp List.all_takeWhile s hs
  have hsplit := congrArg List.reverse
    (List.takeWhile_append_dropWhile (p := (· = "")) (l := ss.reverse))
  rw [List.reverse_append, List.reverse_reverse, hempty, List.reverse_replicate] at hsplit
  exact hsplit.symm

theorem stem_concat_empty (ss : List String) : stem (ss ++ [""]) = stem ss := by
  unfold stem
  rw [List.reverse_append]
  simp

theorem stem_trimmed (ss : List String) : stem (trimmed ss) = stem ss := by
  unfold trimmed
  split
  · next h =>
    simp only [Bool.and_eq_true, decide_eq_true_eq] at h
    have hne : ss ≠ [] := by
      rintro rfl
      exact absurd h.1 (by decide)
    have hlast : ss.getLast hne = "" := by
      simpa [List.getLast?_eq_some_getLast hne] using h.2
    rw [← stem_concat_empty ss.dropLast, ← hlast, List.dropLast_concat_getLast]
  · rfl

theorem exists_front (ss : List String) : ∃ n, front ss = stem ss ++ List.replicate n "" := by
  unfold front
  split
  · next h =>
    refine ⟨0, ?_⟩
    rw [← stem_trimmed, h]
    rfl
  · rw [← stem_trimmed]
    exact exists_stem _

theorem Path.text_append (ss ws : List String) :
    (Path.segments (ss ++ ws)).text = (Path.segments ss).text ++ (Path.segments ws).text := by
  rw [← String.toList_inj, String.toList_append, Path.toList_text, Path.toList_text,
    Path.toList_text, List.flatMap_append]

/-! ### Reading -/

/-- A text with a query behind it, if there is one. -/
def withQuery (s : String) (q : Option String) : String := s ++ (q.map ("?" ++ ·)).getD ""

theorem beforeQuery_withQuery {s : String} (h : '?' ∉ s.toList) (q : Option String) :
    beforeQuery (withQuery s q) = s := by
  rw [beforeQuery, withQuery, String.toList_append, takeWhile_append_query h, String.ofList_toList]

theorem queryOf_withQuery {s : String} (h : '?' ∉ s.toList) (q : Option String) :
    queryOf (withQuery s q) = q.getD "" := by
  rw [queryOf, withQuery, String.toList_append, List.dropWhile_append_of_pos fun c hc => by
    simpa using fun e : c = '?' => h (e ▸ hc)]
  cases q with
  | none => rfl
  | some q =>
    rw [Option.map_some, Option.getD_some, String.toList_append]
    exact String.ofList_toList

theorem mapM_eq_some {α β : Type} {f : α → Option β} : ∀ {as : List α} {bs : List β},
    as.map f = bs.map some → as.mapM f = some bs
  | [], [], _ => rfl
  | a :: as, b :: bs, h => by
    obtain ⟨ha, has⟩ := List.cons_eq_cons.mp h
    rw [List.mapM_cons, ha, mapM_eq_some has]
    rfl

theorem read_withQuery (n : Nat) {ws texts : List String} (hne : ∀ w ∈ ws, w ≠ "")
    (hfree : ∀ c ∈ ['/', '?', '#'], ∀ w ∈ ws, c ∉ w.toList)
    (hread : ws.map percentText? = texts.map some) (q : Option String) :
    let rest := withQuery (Path.segments (List.replicate n "" ++ ws)).text q
    segments? rest = some texts ∧ queryOf rest = q.getD "" := by
  have hclean : ∀ c ∈ ['/', '?', '#'], ∀ w ∈ List.replicate n "" ++ ws, c ∉ w.toList := by
    intro c hc w hw
    rcases List.mem_append.mp hw with hw | hw
    · rw [List.eq_of_mem_replicate hw]
      exact List.not_mem_nil
    · exact hfree c hc w hw
  have hquery : '?' ∉ (Path.segments (List.replicate n "" ++ ws)).text.toList :=
    Path.not_mem_text (by decide) (hclean '?' (by decide))
  have hparts : Text.splitOn '/' (Path.segments (List.replicate n "" ++ ws)).text =
      "" :: (List.replicate n "" ++ ws) := by
    rw [Text.splitOn, splitOn_text (hclean '/' (by decide)), List.map_cons, List.map_map]
    simp [Function.comp_def]
  have hkept : (List.replicate n "" ++ ws).filter (· ≠ "") = ws := by
    rw [List.filter_append, List.filter_replicate_of_neg (by decide), List.nil_append,
      List.filter_eq_self.mpr fun w hw => by simpa using hne w hw]
  refine ⟨?_, queryOf_withQuery hquery q⟩
  rw [segments?, beforeQuery_withQuery hquery, hparts]
  show ((List.replicate n "" ++ ws).filter (· ≠ "")).mapM percentText? = some texts
  rw [hkept]
  exact mapM_eq_some hread

/-- **An extended address is read as it was made.** -/
theorem target_append_read {u : Url} {ss : List String} {first : String} {texts : List String}
    (hs : Settled u.scheme ss) (hp : u.path = .segments ss) (hf : Leading u.scheme first)
    (ht : ∀ t ∈ texts, IsPlain t ∧ t ≠ "") (q : Option String) :
    ∃ rest, { u.append (first :: texts) with query := q }.target = u.stemText ++ rest ∧
      segments? rest = some (first :: texts) ∧ queryOf rest = q.getD "" := by
  obtain ⟨n, hn⟩ := exists_front ss
  have hall : ∀ t ∈ first :: texts, IsPlain t ∧ t ≠ "" :=
    List.forall_mem_cons.mpr ⟨⟨hf.plain, hf.ne_empty⟩, ht⟩
  have hne : ∀ w ∈ segmentTexts u.scheme (first :: texts), w ≠ "" := by
    intro w hw
    obtain ⟨t, hmem, rfl⟩ := List.mem_map.mp hw
    exact segmentText_ne_empty (hall t hmem).1 (hall t hmem).2
  refine ⟨_, ?_, read_withQuery n hne (fun c hc => not_mem_segmentTexts hc)
    (percentText?_segmentTexts fun t hmem => (hall t hmem).1) q⟩
  rw [append_eq hs hp hf fun t hmem => (ht t hmem).1, hn, List.append_assoc, stemText, hp]
  simp only [target, withQuery]
  rw [Path.text_append, String.append_assoc]

/-! ### Pairs -/

/-- **The one pair** of a query that has no other is read. -/
theorem pairs_formEncode (key value : String) :
    pairs (formEncode key ++ "=" ++ formEncode value) = [(key, value)] := by
  have hone : Text.splitOn '&' (formEncode key ++ "=" ++ formEncode value) =
      [formEncode key ++ "=" ++ formEncode value] := by
    rw [Text.splitOn, List.splitOn_eq_singleton, List.map_singleton, String.ofList_toList]
    simp only [String.toList_append, List.mem_append, not_or]
    exact ⟨⟨not_mem_formEncode (by decide) key, by decide⟩, not_mem_formEncode (by decide) value⟩
  have hcut : Text.splitOnce? '=' (formEncode key ++ "=" ++ formEncode value) =
      some (formEncode key, formEncode value) :=
    Text.splitOnce?_append (not_mem_formEncode (by decide) key) _
  rw [pairs, hone, List.filterMap_cons, hcut]
  simp [formText?_formEncode]

/-! ### Addresses of the web -/

theorem parseIpv6_ne_other {cs : List Char} (s : String) : Host.parseIpv6 cs ≠ .ok (.other s) := by
  unfold Host.parseIpv6
  extract_lets pieces
  cases pieces <;> nofun

theorem parseIpv4_ne_other {cs : List Char} (s : String) : Host.parseIpv4 cs ≠ .ok (.other s) := by
  unfold Host.parseIpv4
  split <;> nofun

theorem host_ne_other {cs : List Char} (s : String) : Host.parse cs ≠ .ok (.other s) := by
  unfold Host.parse
  split
  · split
    · exact parseIpv6_ne_other s
    · nofun
  · split
    · nofun
    · nofun
    · split
      · exact parseIpv4_ne_other s
      · nofun

/-- **An address of the web** has a host and a path of segments. -/
theorem web_of_parse {text : String} {u : Url} (h : parse text = .ok u)
    (hw : u.scheme = "http" ∨ u.scheme = "https") :
    u.hasHost = true ∧ ∃ ss, u.path = .segments ss := by
  have hscheme : u.scheme ≠ "file" ∧ isWeb u.scheme = true := by
    rcases hw with hw | hw <;> rw [hw] <;> decide
  unfold parse at h
  split at h
  · cases h
  · split at h
    · exact absurd (filed_of_fileAddress h).1 hscheme.1
    · split at h
      · obtain ⟨-, hpath, t, host, hhost, hparse⟩ := withAuthority_eq_ok h
        refine ⟨?_, hpath⟩
        rw [if_pos rfl] at hparse
        unfold hasHost
        rw [hhost]
        cases host with
        | other s => exact absurd hparse (host_ne_other s)
        | _ => rfl
      · next hnot => exact absurd (scheme_of_otherAddress h ▸ hscheme.2) hnot

end GceMachines.Url
