import GceMachines.Lifecycle.Machines
import GceMachines.Proofs.Lifecycle.Questions

/-!
# Walks over pages

A search lists one page after another, each but the first with the token of the page before it,
and looks through the instances of the pages in order. A search for one name ends with the first
page that has the machine. Every other search ends well only behind a page without a token, and
only if it was not cancelled by then.

* `Walked`: the pages that were listed, with the worlds before the first and after the last.
* `Search.scan_named`, `Search.scan_unnamed`: what the instances of the pages make of a search.
* `Broken`: the pages that were listed before one that failed.
* `walked_of_run`, `Walked.run_walk`: a search that succeeds is such a walk, and a walk to its end
  makes a search succeed.
-/

namespace GceMachines.Lifecycle

variable {σ : Type}

/-! ### Instances in order -/

namespace Search

variable {s : Search} {found : Discovered} {i : Instance} {is js : List Instance}

theorem wants_iff :
    s.wants i = true ↔ (∀ name ∈ s.name, i.name = name) ∧
      Markers.ofTags i.tagItems = ⟨some s.cluster, some s.role⟩ := by
  unfold wants
  rw [Bool.and_eq_true, Option.all_eq_true, decide_eq_true_iff]
  refine and_congr_left fun _ => forall₂_congr fun name _ => ?_
  rw [decide_eq_true_iff]
  exact eq_comm

theorem scan_append :
    s.scan found (is ++ js) =
      if (s.scan found is).2 then s.scan found is else s.scan (s.scan found is).1 js := by
  induction is generalizing found with
  | nil => rfl
  | cons i is ih =>
    rw [List.cons_append, scan, scan]
    split
    · split
      · rfl
      · exact ih
    · exact ih

theorem scan_of_unwanted (h : ∀ i ∈ is, s.wants i = false) : s.scan found is = (found, false) := by
  induction is with
  | nil => rfl
  | cons i is ih =>
    rw [scan, if_neg (by simp [h i])]
    exact ih fun j hj => h j (List.mem_cons_of_mem i hj)

/-- **A search for one name** takes the first instance that is wanted. -/
theorem scan_named (hn : s.name.isSome = true) (h : ∃ i ∈ is, s.wants i = true) :
    ∃ i ∈ is, s.wants i = true ∧ s.scan found is = (s.add found i, true) := by
  induction is with
  | nil => obtain ⟨i, hi, -⟩ := h; cases hi
  | cons j is ih =>
    rw [scan]
    by_cases hj : s.wants j = true
    · rw [if_pos hj, if_pos hn]
      exact ⟨j, .head _, hj, rfl⟩
    · rw [if_neg hj]
      obtain ⟨i, hi, hw⟩ := h
      rcases List.mem_cons.mp hi with rfl | hi
      · exact absurd hw hj
      · obtain ⟨k, hk, hkw, hs⟩ := ih ⟨i, hi, hw⟩
        exact ⟨k, .tail _ hk, hkw, hs⟩

/-- **A search for all names** takes every instance that is wanted. -/
theorem scan_unnamed (hn : s.name = none) :
    s.scan found is = ((is.filter s.wants).foldl s.add found, false) := by
  induction is generalizing found with
  | nil => rfl
  | cons i is ih =>
    rw [scan]
    by_cases hi : s.wants i = true
    · rw [if_pos hi, hn, if_neg (by simp), ih, List.filter_cons_of_pos hi, List.foldl_cons]
    · rw [if_neg hi, ih, List.filter_cons_of_neg hi]

end Search

/-! ### Pages in order -/

/-- **A walk over pages** from a token on, up to a last page. -/
inductive Walked (b : Backend σ) (cancelAt : Option Nat) (project zone : String) :
    Option String → World σ → List InstanceList → InstanceList → World σ → Prop
  | last {token : Option String} {w w' : World σ} {page : InstanceList}
      (hl : b.handler cancelAt (.abortable (.list project zone token)) w =
        .answered (some (.ok page)) w') :
      Walked b cancelAt project zone token w [] page w'
  | more {token : Option String} {t : String} {w w₁ w' : World σ} {page last : InstanceList}
      {earlier : List InstanceList}
      (hl : b.handler cancelAt (.abortable (.list project zone token)) w =
        .answered (some (.ok page)) w₁)
      (ht : page.next? = some t) (hw : Walked b cancelAt project zone (some t) w₁ earlier last w') :
      Walked b cancelAt project zone token w (page :: earlier) last w'

/-- The instances on pages, in order. -/
def itemsOf (pages : List InstanceList) : List Instance := pages.flatMap InstanceList.items

theorem itemsOf_cons (page : InstanceList) (pages : List InstanceList) :
    itemsOf (page :: pages) = page.items ++ itemsOf pages := rfl

variable {b : Backend σ} {cancelAt : Option Nat} {s : Search} {n : Nat} {token : Option String}
  {found found' : Discovered} {w w' : World σ} {earlier : List InstanceList}
  {last : InstanceList}

/-- A walk may end with its last page: no page follows, and nobody has cancelled it. -/
structure Exhausted (b : Backend σ) (cancelAt : Option Nat) (last : InstanceList)
    (w : World σ) : Prop where
  noNext : last.next? = none
  notCancelled : b.isCancelled cancelAt w = false

/-- **A search that succeeds is a walk** that no page before the last one has ended, and that the
last one ends by what is on it or because it is the last there is. -/
theorem walked_of_run
    (h : (s.walk n token found).run (b.handler cancelAt) w = .answered (.ok found') w') :
    ∃ earlier last stop, earlier.length < n ∧
      Walked b cancelAt s.project s.zone token w earlier last w' ∧
      (s.scan found (itemsOf earlier)).2 = false ∧
      s.scan found (itemsOf earlier ++ last.items) = (found', stop) ∧
      (stop = false → Exhausted b cancelAt last w') := by
  induction n generalizing token found w with
  | zero => cases h
  | succ n ih =>
    rw [Search.walk] at h
    cases ha : b.handler cancelAt (.abortable (.list s.project s.zone token)) w with
    | stuck w₁ =>
      rw [Program.run_ask_of_stuck _ ha] at h
      cases h
    | answered a w₁ =>
      rw [Program.run_ask_of_answered _ ha] at h
      match a, ha, h with
      | none, _, h => cases h
      | some (.error e), _, h => cases h
      | some (.ok page), ha, h =>
        dsimp only at h
        split at h
        · next f hs =>
          cases h
          exact ⟨[], page, true, Nat.succ_pos n, .last ha, rfl, hs, nofun⟩
        · next f hs =>
          split at h
          · next t ht =>
            obtain ⟨earlier, last, stop, hlen, hw, he, hall, hend⟩ := ih h
            refine ⟨page :: earlier, last, stop, Nat.succ_lt_succ hlen, .more ha ht hw, ?_, ?_,
              hend⟩
            · rw [itemsOf_cons, Search.scan_append, hs]
              exact he
            · rw [itemsOf_cons, List.append_assoc, Search.scan_append, hs]
              exact hall
          · next ht =>
            cases hc : b.isCancelled cancelAt w₁ with
            | true => simp [Program.run, Backend.handler, hc, Plan.fail] at h
            | false =>
              simp only [Program.run, Backend.handler, hc, Plan.succeed, Bool.false_eq_true,
                if_false, Program.Outcome.answered.injEq, Except.ok.injEq] at h
              obtain ⟨rfl, rfl⟩ := h
              exact ⟨[], page, false, Nat.succ_pos n, .last ha, rfl, hs, fun _ => ⟨ht, hc⟩⟩

/-- **A walk to its end makes a search succeed** if the allowance is large enough. -/
theorem Walked.run_walk (hw : Walked b cancelAt s.project s.zone token w earlier last w')
    (hlen : earlier.length < n) {stop : Bool} (he : (s.scan found (itemsOf earlier)).2 = false)
    (hall : s.scan found (itemsOf earlier ++ last.items) = (found', stop))
    (hend : stop = false → Exhausted b cancelAt last w') :
    (s.walk n token found).run (b.handler cancelAt) w = .answered (.ok found') w' := by
  induction hw generalizing n found with
  | last hl =>
    obtain ⟨n, rfl⟩ : ∃ m, n = m + 1 := ⟨n - 1, by simp at hlen; omega⟩
    rw [Search.walk, Program.run_ask_of_answered _ hl]
    simp only [itemsOf, List.flatMap_nil, List.nil_append] at hall
    simp only [hall]
    cases stop with
    | true => rfl
    | false =>
      obtain ⟨ht, hc⟩ := hend rfl
      simp only [ht, Program.run, Backend.handler, hc]
      rfl
  | more hl ht hw ih =>
    obtain ⟨n, rfl⟩ : ∃ m, n = m + 1 := ⟨n - 1, by simp at hlen; omega⟩
    rw [Search.walk, Program.run_ask_of_answered _ hl]
    rw [itemsOf_cons, Search.scan_append] at he
    rw [itemsOf_cons, List.append_assoc, Search.scan_append] at hall
    rename_i page _ _
    cases hs : s.scan found page.items with
    | mk f hit =>
      rw [hs] at he hall
      cases hit with
      | true => cases he
      | false =>
        simp only [hs, ht]
        exact ih (Nat.lt_of_succ_lt_succ hlen) he hall hend

theorem seeThrough_of_waitFor {r : Request} {limit : Option Nat}
    {reply : Except ServiceError r.Reply}
    (h : b.waitFor cancelAt limit r w = .answered (.came reply) w') :
    Backend.seeThrough (.call r) (b.call r) w = .answered reply w' := by
  unfold Backend.waitFor at h
  split at h
  · cases h
  · split at h
    · cases h
    · cases hc : b.call r w.state with
      | mk response s =>
        rw [hc] at h
        cases response with
        | after ms result =>
          obtain ⟨t, ht, rfl⟩ := Backend.comes_of_firstOf h
          cases ht
          rw [Backend.seeThrough, hc]
        | never =>
          dsimp only at h
          split at h
          · cases h
          · obtain ⟨t, ht, -⟩ := Backend.comes_of_firstOf h
            cases ht

theorem handler_call_of_abortable {r : Request} {reply : Except ServiceError r.Reply}
    (h : b.handler cancelAt (.abortable r) w = .answered (some reply) w') (c : Option Nat) :
    b.handler c (.call r) w = .answered reply w' := by
  simp only [Backend.handler] at h
  cases hw : b.waitFor cancelAt none r w with
  | stuck w₁ =>
    rw [hw] at h
    cases h
  | answered a w₁ =>
    rw [hw] at h
    cases a with
    | came reply' =>
      cases h
      exact seeThrough_of_waitFor hw
    | cancelled => cases h
    | late => cases h

theorem calls_of_abortable {r : Request} {reply : Except ServiceError r.Reply}
    (h : b.handler cancelAt (.abortable r) w = .answered (some reply) w') :
    w'.calls = w.calls ++ [(w.now, r)] := by
  have hcall := handler_call_of_abortable h none
  refine World.calls_of_contacts_cons (k := .call r) ?_
  rw [← Backend.contacts_seeThrough (.call r) (b.call r) w]
  exact congrArg (fun out => out.state.contacts) hcall.symm

/-- **A walk to its end** over the pages of a zone hands out their instances. -/
theorem Walked.run_pages {project zone : String}
    (hw : Walked b cancelAt project zone token w earlier last w') (hend : last.next? = none)
    (hlen : earlier.length < n) (c : Option Nat) :
    (pages project zone n none token).run (b.handler c) w =
      .answered ((earlier ++ [last]).map InstanceList.items, .exhausted) w' := by
  induction hw generalizing n with
  | last hl =>
    obtain ⟨n, rfl⟩ := Nat.exists_eq_add_one_of_ne_zero (Nat.ne_zero_of_lt hlen)
    rw [pages, if_neg nofun, Program.run_ask_of_answered _ (handler_call_of_abortable hl c)]
    simp only [hend]
    rfl
  | more hl ht hw ih =>
    obtain ⟨n, rfl⟩ := Nat.exists_eq_add_one_of_ne_zero (Nat.ne_zero_of_lt hlen)
    rw [pages, if_neg nofun, Program.run_ask_of_answered _ (handler_call_of_abortable hl c)]
    simp only [ht, Option.map_none]
    exact Program.run_bind_of_answered _ (ih hend (Nat.lt_of_succ_lt_succ hlen))

/-! ### Walks that fail -/

/-- **A walk on which a page fails**, behind the pages that were listed. -/
inductive Broken (b : Backend σ) (cancelAt : Option Nat) (project zone : String) :
    Option String → World σ → List InstanceList → ServiceError → World σ → Prop
  | here {token : Option String} {w w' : World σ} {e : ServiceError}
      (hl : b.handler cancelAt (.abortable (.list project zone token)) w =
        .answered (some (.error e)) w') :
      Broken b cancelAt project zone token w [] e w'
  | more {token : Option String} {t : String} {w w₁ w' : World σ} {page : InstanceList}
      {earlier : List InstanceList} {e : ServiceError}
      (hl : b.handler cancelAt (.abortable (.list project zone token)) w =
        .answered (some (.ok page)) w₁)
      (ht : page.next? = some t) (hw : Broken b cancelAt project zone (some t) w₁ earlier e w') :
      Broken b cancelAt project zone token w (page :: earlier) e w'

/-- **A page that fails makes a search fail** that no page before it has ended. -/
theorem Broken.run_walk {e : ServiceError}
    (hw : Broken b cancelAt s.project s.zone token w earlier e w') (hlen : earlier.length < n)
    (he : (s.scan found (itemsOf earlier)).2 = false) :
    (s.walk n token found).run (b.handler cancelAt) w =
      .answered (.error e.toMachineError) w' := by
  induction hw generalizing n found with
  | here hl =>
    obtain ⟨n, rfl⟩ : ∃ m, n = m + 1 := ⟨n - 1, by simp at hlen; omega⟩
    rw [Search.walk, Program.run_ask_of_answered _ hl]
    rfl
  | more hl ht hw ih =>
    obtain ⟨n, rfl⟩ : ∃ m, n = m + 1 := ⟨n - 1, by simp at hlen; omega⟩
    rw [Search.walk, Program.run_ask_of_answered _ hl]
    rw [itemsOf_cons, Search.scan_append] at he
    rename_i page _ _
    cases hs : s.scan found page.items with
    | mk f hit =>
      rw [hs] at he
      cases hit with
      | true => cases he
      | false =>
        simp only [hs, ht]
        exact ih (Nat.lt_of_succ_lt_succ hlen) he

/-! ### Searches for all names -/

/-- What a search for all names makes of instances. -/
def Search.collect (s : Search) (is : List Instance) : Discovered :=
  (is.filter s.wants).foldl s.add .empty

/-- A search for all names that succeeds has walked to the end, and has everything on its way that
it wants. -/
theorem exhausted_of_run (hn : s.name = none)
    (h : (s.walk n token .empty).run (b.handler cancelAt) w = .answered (.ok found) w') :
    ∃ earlier last, Walked b cancelAt s.project s.zone token w earlier last w' ∧
      Exhausted b cancelAt last w' ∧ found = s.collect (itemsOf earlier ++ last.items) := by
  obtain ⟨earlier, last, stop, -, hw, -, hall, hend⟩ := walked_of_run h
  rw [Search.scan_unnamed hn] at hall
  cases hall
  exact ⟨earlier, last, hw, hend rfl, rfl⟩

theorem Walked.run_unnamed (hw : Walked b cancelAt s.project s.zone token w earlier last w')
    (hn : s.name = none) (hlen : earlier.length < n) (hend : Exhausted b cancelAt last w') :
    (s.walk n token .empty).run (b.handler cancelAt) w =
      .answered (.ok (s.collect (itemsOf earlier ++ last.items))) w' :=
  hw.run_walk hlen (by rw [Search.scan_unnamed hn]) (Search.scan_unnamed hn) fun _ => hend

end GceMachines.Lifecycle
