import GceMachines.Proofs.Lifecycle.Located

/-!
# The protocol of pages

A service that answers the requests for pages is given by a script: one response for each request
there may ever be. Whatever it says, the first request carries no token, and every further one the
token that came with the page before. A request is made only if the page before came with a token
that is not empty and is not enough; so a failure is the last that a walk sees. A search for one
name makes no request behind the page that has the machine, whatever the script says from there.

* `PageScript`, `PageScript.backend`: a script, and the service that follows it.
* `Requested`: the requests made so far, each with its token.
* `UpTo`: how many requests are made, if each page decides whether there is another one.
* `run_pages`, `run_search`: what a walk over pages and a search come to from any page on.
* `page_protocol`: the same from the beginning.
-/

namespace GceMachines.Lifecycle

open Program (Outcome)

/-- **Responses to requests for pages**, one for each request there may ever be. -/
abbrev PageScript : Type := Nat → Response InstanceList

namespace PageScript

/-- The service that answers requests for pages by a script. Its state is the number of requests so
far; other calls are never answered. -/
def backend (script : PageScript) : Backend Nat where
  connect _ n := (.after 0 (.ok ()), n)
  call
    | .list _ _ _, n => (script n, n + 1)
    | _, n => (.never, n)
  wait _ n := n
  interrupted _ := false

/-- A page of the script, if it is one and no failure. -/
def pageAt (script : PageScript) (i : Nat) : Option InstanceList :=
  match script i with
  | .after _ (.ok page) => some page
  | _ => none

/-- **The token of a request**: none for the first one, then that of the page before. -/
def tokenAt (script : PageScript) : Nat → Option String
  | 0 => none
  | i + 1 => (script.pageAt i).bind InstanceList.nextPageToken

/-- **A page that has another one behind it**: it comes with a token, which is not empty. -/
def GoesOn (script : PageScript) (i : Nat) : Prop :=
  ∃ page t, script.pageAt i = some page ∧ page.nextPageToken = some t ∧ t ≠ ""

variable {script : PageScript} {i ms : Nat} {page : InstanceList}

theorem pageAt_of_ok (h : script i = .after ms (.ok page)) : script.pageAt i = some page := by
  rw [pageAt, h]

theorem pageAt_of_error {e : ServiceError} (h : script i = .after ms (.error e)) :
    script.pageAt i = none := by
  rw [pageAt, h]

theorem pageAt_of_never (h : script i = .never) : script.pageAt i = none := by
  rw [pageAt, h]

end PageScript

theorem next?_eq_some {page : InstanceList} {t : String} :
    page.next? = some t ↔ page.nextPageToken = some t ∧ t ≠ "" := by
  simp [InstanceList.next?, Option.filter_eq_some_iff]

variable {script : PageScript} {project zone : String} {cancelAt : Option Nat} {i n a : Nat}
  {page : InstanceList} {w : World Nat}

theorem goesOn_of_next? {t : String} (hp : script.pageAt i = some page) (ht : page.next? = some t) :
    script.GoesOn i ∧ script.tokenAt (i + 1) = some t := by
  obtain ⟨htoken, hne⟩ := next?_eq_some.mp ht
  exact ⟨⟨page, t, hp, htoken, hne⟩, by rw [PageScript.tokenAt, hp]; exact htoken⟩

theorem not_goesOn_of_next? (hp : script.pageAt i = some page) (ht : page.next? = none) :
    ¬ script.GoesOn i := by
  rintro ⟨page', t, hp', htoken, hne⟩
  cases hp.symm.trans hp'
  exact Option.some_ne_none t ((next?_eq_some.mpr ⟨htoken, hne⟩).symm.trans ht)

theorem not_goesOn_of_none (hp : script.pageAt i = none) : ¬ script.GoesOn i := by
  rintro ⟨page', t, hp', -⟩
  cases hp.symm.trans hp'

/-! ### One request -/

/-- The world in which a request has been made. -/
def requesting (r : Request) (w : World Nat) : World Nat :=
  { w with state := w.state + 1, contacts := (w.now, .call r) :: w.contacts }

theorem handler_call_list {token : Option String} :
    script.backend.handler cancelAt (.call (.list project zone token)) w =
      match script w.state with
      | .after ms reply =>
        .answered reply ((requesting (.list project zone token) w).advance (w.now + ms))
      | .never => .stuck (requesting (.list project zone token) w) := by
  simp only [Backend.handler, Backend.seeThrough, PageScript.backend]
  cases script w.state <;> rfl

theorem handler_abortable_list {token : Option String} :
    script.backend.handler none (.abortable (.list project zone token)) w =
      match script w.state with
      | .after ms reply =>
        .answered (some reply) ((requesting (.list project zone token) w).advance (w.now + ms))
      | .never => .stuck (requesting (.list project zone token) w) := by
  simp only [Backend.handler, Backend.waitFor, PageScript.backend]
  cases script w.state <;> rfl

/-- **The requests made so far**, each for the same zone and with its token. -/
structure Requested (script : PageScript) (project zone : String) (n : Nat) (w : World Nat) :
    Prop where
  count : w.state = n
  calls : w.calls.map Prod.snd =
    (List.range n).map fun i => .list project zone (script.tokenAt i)

theorem Requested.start : Requested script project zone 0 (.start 0) := ⟨rfl, rfl⟩

theorem Requested.next (h : Requested script project zone n w) :
    Requested script project zone (n + 1)
      (requesting (.list project zone (script.tokenAt n)) w) := by
  refine ⟨congrArg Nat.succ h.count, ?_⟩
  have hcalls : (requesting (.list project zone (script.tokenAt n)) w).calls =
      w.calls ++ [(w.now, .list project zone (script.tokenAt n))] :=
    World.calls_of_contacts_cons (k := .call (.list project zone (script.tokenAt n))) rfl
  rw [hcalls, List.map_append, h.calls, List.range_succ, List.map_append]
  rfl

theorem Requested.advance (h : Requested script project zone n w) (t : Nat) :
    Requested script project zone n (w.advance t) := ⟨h.count, h.calls⟩

/-- **A request is answered by the script**, or never. -/
theorem Requested.call (cancelAt : Option Nat) (h : Requested script project zone n w) :
    (∃ ms reply w', script n = .after ms reply ∧
      script.backend.handler cancelAt (.call (.list project zone (script.tokenAt n))) w =
        .answered reply w' ∧ Requested script project zone (n + 1) w') ∨
    (script n = .never ∧ ∃ w',
      script.backend.handler cancelAt (.call (.list project zone (script.tokenAt n))) w =
        .stuck w' ∧ Requested script project zone (n + 1) w') := by
  rw [handler_call_list, h.count]
  cases hs : script n with
  | after ms reply => exact .inl ⟨ms, reply, _, rfl, rfl, h.next.advance _⟩
  | never => exact .inr ⟨rfl, _, rfl, h.next⟩

theorem Requested.abortable (h : Requested script project zone n w) :
    (∃ ms reply w', script n = .after ms reply ∧
      script.backend.handler none (.abortable (.list project zone (script.tokenAt n))) w =
        .answered (some reply) w' ∧ Requested script project zone (n + 1) w') ∨
    (script n = .never ∧ ∃ w',
      script.backend.handler none (.abortable (.list project zone (script.tokenAt n))) w =
        .stuck w' ∧ Requested script project zone (n + 1) w') := by
  rw [handler_abortable_list, h.count]
  cases hs : script n with
  | after ms reply => exact .inl ⟨ms, reply, _, rfl, rfl, h.next.advance _⟩
  | never => exact .inr ⟨rfl, _, rfl, h.next⟩

/-- **How many requests are made**: as many as there may be, as long as each page leads to the next
one. -/
def UpTo (bound : Nat) (leads : Nat → Prop) (n : Nat) : Prop :=
  ∀ i, i < n ↔ i < bound ∧ ∀ j < i, leads j

theorem upTo_bound {leads : Nat → Prop} (h : ∀ j < n, leads j) : UpTo n leads n :=
  fun _ => ⟨fun hi => ⟨hi, fun j hj => h j (Nat.lt_trans hj hi)⟩, And.left⟩

theorem upTo_succ {bound : Nat} {leads : Nat → Prop} (hn : n < bound) (h : ∀ j < n, leads j)
    (hnot : ¬ leads n) : UpTo bound leads (n + 1) := by
  intro i
  constructor
  · intro hi
    exact ⟨Nat.lt_of_le_of_lt (Nat.le_of_lt_succ hi) hn,
      fun j hj => h j (Nat.lt_of_lt_of_le hj (Nat.le_of_lt_succ hi))⟩
  · rintro ⟨-, hall⟩
    exact Nat.lt_of_not_le fun hle => hnot (hall n hle)

theorem UpTo.last {bound : Nat} {leads : Nat → Prop} (h : UpTo bound leads n) {i : Nat} (hi : i < n)
    (hnot : ¬ leads i) : n = i + 1 := by
  refine Nat.le_antisymm (Nat.le_of_not_lt fun hlt => ?_) hi
  exact hnot (((h (i + 1)).mp hlt).2 i (Nat.lt_succ_self i))

/-! ### Walks over pages -/

/-- The number of pages that a walk may see: the allowance, unless fewer are wanted. -/
def mostPages (allowance : Nat) (wanted : Option Nat) : Nat :=
  wanted.elim allowance (min allowance)

theorem lt_mostPages {allowance : Nat} {wanted : Option Nat} :
    i < mostPages allowance wanted ↔ i < allowance ∧ ∀ k ∈ wanted, i < k := by
  cases wanted with
  | none => simp [mostPages]
  | some k =>
    simp only [mostPages, Option.elim_some, Option.mem_some_iff, forall_eq']
    exact Nat.lt_min

theorem mostPages_eq {allowance : Nat} {wanted : Option Nat} (hi : i ≤ allowance)
    (hw : ∀ k ∈ wanted, i ≤ k) (hend : i = allowance ∨ i ∈ wanted) :
    mostPages allowance wanted = i := by
  cases wanted with
  | none =>
    rcases hend with rfl | hmem
    · rfl
    · cases hmem
  | some k =>
    have hk := hw k rfl
    rw [Option.mem_some_iff] at hend
    simp only [mostPages, Option.elim_some]
    omega

/-- What the pages of the script from one on have on them. -/
def itemsFrom (script : PageScript) (i n : Nat) : List (Option (List Instance)) :=
  (List.range' i n).map fun j => (script.pageAt j).map InstanceList.items

/-- **What a walk over pages comes to** from one on, if `n` requests are made in all: enough pages
were seen, or the last one, or a request failed; or the walk was cut off, or a request was never
answered. -/
inductive PagesEnd (script : PageScript) (allowance : Nat) (wanted : Option Nat) (i n : Nat) :
    Outcome (World Nat) (List (List Instance) × WalkEnd) → Prop
  | stopped {ps : List (List Instance)} {w : World Nat} (hn : n = i + ps.length)
      (hps : ps.map some = itemsFrom script i ps.length) (hw : n ∈ wanted) :
      PagesEnd script allowance wanted i n (.answered (ps, .stopped) w)
  | exhausted {m : Nat} {ps : List (List Instance)} {w : World Nat} (hn : n = i + ps.length)
      (hps : ps.map some = itemsFrom script i ps.length) (hw : n ∉ wanted) (hm : n = m + 1)
      (hl : ¬ script.GoesOn m) :
      PagesEnd script allowance wanted i n (.answered (ps, .exhausted) w)
  | failed {m ms : Nat} {ps : List (List Instance)} {e : ServiceError} {w : World Nat}
      (hm : m = i + ps.length) (hps : ps.map some = itemsFrom script i ps.length) (hn : n = m + 1)
      (hs : script m = .after ms (.error e)) :
      PagesEnd script allowance wanted i n (.answered (ps, .failed e) w)
  | cut {w : World Nat} (hn : n = allowance) (hgo : ∀ j < n, script.GoesOn j) :
      PagesEnd script allowance wanted i n (.stuck w)
  | unanswered {m : Nat} {w : World Nat} (hn : n = m + 1) (hs : script m = .never) :
      PagesEnd script allowance wanted i n (.stuck w)

theorem itemsFrom_one (hp : script.pageAt i = some page) :
    itemsFrom script i 1 = [page.items].map some := by
  rw [itemsFrom, List.range'_one, List.map_singleton, hp]
  rfl

theorem PagesEnd.cons {allowance : Nat} {wanted : Option Nat} {ps : List (List Instance)}
    {how : WalkEnd} {w : World Nat} (hp : script.pageAt i = some page)
    (h : PagesEnd script allowance wanted (i + 1) n (.answered (ps, how) w)) :
    PagesEnd script allowance wanted i n (.answered (page.items :: ps, how) w) := by
  have hlength : i + 1 + ps.length = i + (ps.length + 1) := by
    rw [Nat.add_assoc, Nat.add_comm 1]
  have hitems (hps : ps.map some = itemsFrom script (i + 1) ps.length) :
      (page.items :: ps).map some = itemsFrom script i (ps.length + 1) := by
    rw [itemsFrom, List.range'_succ, List.map_cons, List.map_cons, hp, hps]
    rfl
  cases h with
  | stopped hn hps hw => exact .stopped (hn.trans hlength) (hitems hps) hw
  | exhausted hn hps hw hm hl => exact .exhausted (hn.trans hlength) (hitems hps) hw hm hl
  | failed hm hps hn hs => exact .failed (hm.trans hlength) (hitems hps) hn hs

theorem PagesEnd.of_stuck {allowance : Nat} {wanted : Option Nat} {m : Nat} {w' : World Nat}
    (h : PagesEnd script allowance wanted m n (.stuck w)) :
    PagesEnd script allowance wanted i n (.stuck w') := by
  cases h with
  | cut hn hgo => exact .cut hn hgo
  | unanswered hn hs => exact .unanswered hn hs

section
variable {wanted : Option Nat}

theorem map_sub_eq_one (h : ∀ k ∈ wanted, i < k) :
    wanted.map (· - i) = some 1 ↔ i + 1 ∈ wanted := by
  rw [Option.map_eq_some_iff]
  constructor
  · rintro ⟨k, hk, hone⟩
    have := h k hk
    rwa [show i + 1 = k by omega]
  · intro hk
    exact ⟨i + 1, hk, Nat.add_sub_cancel_left i 1⟩

theorem map_sub_map_sub (wanted : Option Nat) (i : Nat) :
    (wanted.map (· - i)).map (· - 1) = wanted.map (· - (i + 1)) := by
  rw [Option.map_map]
  rfl

end

/-- **A walk over pages from any page on.** -/
theorem run_pages {allowance : Nat} {wanted : Option Nat} (cancelAt : Option Nat)
    (h : Requested script project zone i w) (ha : i + a = allowance) (hw : ∀ k ∈ wanted, i ≤ k)
    (hgoes : ∀ j < i, script.GoesOn j) :
    ∃ n out, (pages project zone a (wanted.map (· - i)) (script.tokenAt i)).run
        (script.backend.handler cancelAt) w = out ∧
      Requested script project zone n out.state ∧
      UpTo (mostPages allowance wanted) script.GoesOn n ∧
      PagesEnd script allowance wanted i n out := by
  induction a generalizing i w with
  | zero =>
    refine ⟨i, _, rfl, h, ?_, .cut ha hgoes⟩
    rw [mostPages_eq (Nat.le_of_eq ha) hw (.inl ha)]
    exact upTo_bound hgoes
  | succ a ih =>
    rw [pages]
    by_cases hstop : i ∈ wanted
    · obtain rfl := hstop
      rw [Option.map_some, Nat.sub_self, if_pos rfl]
      refine ⟨i, _, rfl, h, ?_, .stopped rfl rfl rfl⟩
      rw [mostPages_eq (by omega) hw (.inr rfl)]
      exact upTo_bound hgoes
    · have hbefore : ∀ k ∈ wanted, i < k := fun k hk =>
        Nat.lt_of_le_of_ne (hw k hk) fun heq => hstop (heq ▸ hk)
      have hne : wanted.map (· - i) ≠ some 0 := by
        intro heq
        obtain ⟨k, hk, hzero⟩ := Option.map_eq_some_iff.mp heq
        exact Nat.not_le_of_lt (hbefore k hk) (Nat.le_of_sub_eq_zero hzero)
      have hlt : i < mostPages allowance wanted := lt_mostPages.mpr ⟨by omega, hbefore⟩
      rw [if_neg hne]
      rcases h.call cancelAt with ⟨ms, reply, w₁, hs, hcall, h₁⟩ | ⟨hs, w₁, hcall, h₁⟩
      · rw [Program.run_ask_of_answered _ hcall]
        cases reply with
        | error e =>
          have hnot : ¬ script.GoesOn i := not_goesOn_of_none (PageScript.pageAt_of_error hs)
          exact ⟨i + 1, _, rfl, h₁, upTo_succ hlt hgoes hnot, .failed rfl rfl rfl hs⟩
        | ok page =>
          have hp := PageScript.pageAt_of_ok hs
          cases ht : page.next? with
          | none =>
            have hnot : ¬ script.GoesOn i := not_goesOn_of_next? hp ht
            simp only [ht, map_sub_eq_one hbefore]
            refine ⟨i + 1, _, rfl, h₁, upTo_succ hlt hgoes hnot, ?_⟩
            split
            · next hw₁ => exact .stopped rfl (itemsFrom_one hp).symm hw₁
            · next hw₁ => exact .exhausted rfl (itemsFrom_one hp).symm hw₁ rfl hnot
          | some t =>
            obtain ⟨hgo, htoken⟩ := goesOn_of_next? hp ht
            have hgoes₁ : ∀ j < i + 1, script.GoesOn j := fun j hj =>
              (Nat.lt_succ_iff_lt_or_eq.mp hj).elim (hgoes j) fun heq => heq ▸ hgo
            obtain ⟨n, out, hrun, hreq, hup, hend⟩ := ih h₁ (by omega) hbefore hgoes₁
            simp only [ht, map_sub_map_sub]
            rw [← htoken]
            cases out with
            | answered r w' =>
              rw [Program.run_bind_of_answered _ hrun]
              exact ⟨n, _, rfl, hreq, hup, hend.cons hp⟩
            | stuck w' =>
              rw [Program.run_bind_of_stuck _ hrun]
              exact ⟨n, _, rfl, hreq, hup, hend.of_stuck⟩
      · have hnot : ¬ script.GoesOn i := not_goesOn_of_none (PageScript.pageAt_of_never hs)
        rw [Program.run_ask_of_stuck _ hcall]
        exact ⟨i + 1, _, rfl, h₁, upTo_succ hlt hgoes hnot, .unanswered rfl hs⟩

/-! ### Searches -/

/-- The pages of the script before one. -/
def pagesBefore (script : PageScript) (n : Nat) : List InstanceList :=
  (List.range n).filterMap script.pageAt

theorem itemsOf_pagesBefore_succ (hp : script.pageAt n = some page) :
    itemsOf (pagesBefore script (n + 1)) = itemsOf (pagesBefore script n) ++ page.items := by
  rw [pagesBefore, List.range_succ, List.filterMap_append, itemsOf, List.flatMap_append]
  simp [pagesBefore, itemsOf, hp]

theorem mem_itemsOf_pagesBefore {x : Instance} :
    x ∈ itemsOf (pagesBefore script n) ↔
      ∃ j < n, ∃ page, script.pageAt j = some page ∧ x ∈ page.items := by
  simp only [itemsOf, pagesBefore, List.mem_flatMap, List.mem_filterMap, List.mem_range]
  constructor
  · rintro ⟨page, ⟨j, hj, hp⟩, hx⟩
    exact ⟨j, hj, page, hp, hx⟩
  · rintro ⟨j, hj, page, hp, hx⟩
    exact ⟨page, ⟨j, hj, hp⟩, hx⟩

variable {s : Search} {found : Discovered}

/-- **A page that ends a search**: the search is for one name, and the page has what it wants. -/
def Hit (script : PageScript) (s : Search) (i : Nat) : Prop :=
  s.name.isSome = true ∧ ∃ page, script.pageAt i = some page ∧ ∃ x ∈ page.items, s.wants x = true

theorem scan_snd {is : List Instance} :
    (s.scan found is).2 = true ↔ s.name.isSome = true ∧ ∃ x ∈ is, s.wants x = true := by
  cases hn : s.name with
  | none =>
    rw [Search.scan_unnamed hn]
    simp
  | some name =>
    have hsome : s.name.isSome = true := by rw [hn]; rfl
    by_cases hx : ∃ x ∈ is, s.wants x = true
    · obtain ⟨x, -, -, hscan⟩ :
          ∃ x ∈ is, s.wants x = true ∧ s.scan found is = (s.add found x, true) :=
        Search.scan_named hsome hx
      simp [hscan, hx]
    · have hall : ∀ x ∈ is, s.wants x = false := fun x hmem =>
        Bool.eq_false_iff.mpr fun hwants => hx ⟨x, hmem, hwants⟩
      simp [Search.scan_of_unwanted hall, hx]

/-- **What a search comes to**, if `n` requests are made in all. -/
inductive SearchEnd (script : PageScript) (s : Search) (allowance n : Nat) :
    Outcome (World Nat) (Except MachineError Discovered) → Prop
  | hit {m : Nat} {found : Discovered} {w : World Nat} (hn : n = m + 1) (hm : Hit script s m)
      (hs : s.scan .empty (itemsOf (pagesBefore script n)) = (found, true)) :
      SearchEnd script s allowance n (.answered (.ok found) w)
  | exhausted {m : Nat} {page : InstanceList} {found : Discovered} {w : World Nat}
      (hn : n = m + 1) (hp : script.pageAt m = some page) (ht : page.next? = none)
      (hs : s.scan .empty (itemsOf (pagesBefore script n)) = (found, false)) :
      SearchEnd script s allowance n (.answered (.ok found) w)
  | failed {m ms : Nat} {e : ServiceError} {w : World Nat} (hn : n = m + 1)
      (hs : script m = .after ms (.error e)) :
      SearchEnd script s allowance n (.answered (.error e.toMachineError) w)
  | cut {w : World Nat} (hn : n = allowance) (hgo : ∀ j < n, script.GoesOn j ∧ ¬ Hit script s j) :
      SearchEnd script s allowance n (.stuck w)
  | unanswered {m : Nat} {w : World Nat} (hn : n = m + 1) (hs : script m = .never) :
      SearchEnd script s allowance n (.stuck w)

/-- **A search from any page on**, if nothing was found to end it so far. -/
theorem run_search {allowance : Nat} (h : Requested script s.project s.zone i w)
    (ha : i + a = allowance) (hleads : ∀ j < i, script.GoesOn j ∧ ¬ Hit script s j)
    (hfound : s.scan .empty (itemsOf (pagesBefore script i)) = (found, false)) :
    ∃ n out, (s.walk a (script.tokenAt i) found).run (script.backend.handler none) w = out ∧
      Requested script s.project s.zone n out.state ∧
      UpTo allowance (fun j => script.GoesOn j ∧ ¬ Hit script s j) n ∧
      SearchEnd script s allowance n out := by
  induction a generalizing i w found with
  | zero =>
    obtain rfl : i = allowance := ha
    exact ⟨i, _, rfl, h, upTo_bound hleads, .cut rfl hleads⟩
  | succ a ih =>
    have hlt : i < allowance := by omega
    rw [Search.walk]
    rcases h.abortable with ⟨ms, reply, w₁, hs, hcall, h₁⟩ | ⟨hs, w₁, hcall, h₁⟩
    · rw [Program.run_ask_of_answered _ hcall]
      cases reply with
      | error e =>
        have hnot : ¬ script.GoesOn i := not_goesOn_of_none (PageScript.pageAt_of_error hs)
        exact ⟨i + 1, _, rfl, h₁, upTo_succ hlt hleads fun hgo => hnot hgo.1, .failed rfl hs⟩
      | ok page =>
        have hp := PageScript.pageAt_of_ok hs
        have hitems : s.scan .empty (itemsOf (pagesBefore script (i + 1))) =
            s.scan found page.items := by
          rw [itemsOf_pagesBefore_succ hp, Search.scan_append, hfound]
          rfl
        have hhit : (s.scan found page.items).2 = true ↔ Hit script s i := by
          rw [scan_snd, Hit, hp]
          simp
        cases hscan : s.scan found page.items with
        | mk found' hit =>
          rw [hscan] at hhit hitems
          simp only [hscan]
          cases hit with
          | true =>
            have hit := hhit.mp rfl
            exact ⟨i + 1, _, rfl, h₁, upTo_succ hlt hleads fun hgo => hgo.2 hit,
              .hit rfl hit hitems⟩
          | false =>
            have hmiss : ¬ Hit script s i := fun hit => Bool.false_ne_true (hhit.mpr hit)
            cases ht : page.next? with
            | none =>
              have hnot : ¬ script.GoesOn i := not_goesOn_of_next? hp ht
              exact ⟨i + 1, _, rfl, h₁, upTo_succ hlt hleads fun hgo => hnot hgo.1,
                .exhausted rfl hp ht hitems⟩
            | some t =>
              obtain ⟨hgo, htoken⟩ := goesOn_of_next? hp ht
              have hleads₁ : ∀ j < i + 1, script.GoesOn j ∧ ¬ Hit script s j := fun j hj =>
                (Nat.lt_succ_iff_lt_or_eq.mp hj).elim (hleads j) fun heq => heq ▸ ⟨hgo, hmiss⟩
              obtain ⟨n, out, hrun, hend⟩ := ih h₁ (by omega) hleads₁ hitems
              rw [htoken] at hrun
              exact ⟨n, out, hrun, hend⟩
    · have hnot : ¬ script.GoesOn i := not_goesOn_of_none (PageScript.pageAt_of_never hs)
      rw [Program.run_ask_of_stuck _ hcall]
      exact ⟨i + 1, _, rfl, h₁, upTo_succ hlt hleads fun hgo => hnot hgo.1, .unanswered rfl hs⟩

/-! ### The last request -/

section
variable {allowance m ms : Nat} {wanted : Option Nat} {e : ServiceError}

theorem pageAt_ne_some_of_error (hs : script i = .after ms (.error e)) :
    script.pageAt i ≠ some page := by
  simp [PageScript.pageAt_of_error hs]

theorem pageAt_of_goesOn (h : script.GoesOn i) : ∃ page, script.pageAt i = some page := by
  obtain ⟨page, -, hp, -⟩ := h
  exact ⟨page, hp⟩

theorem pageAt_of_itemsFrom {ps : List (List Instance)}
    (hps : ps.map some = itemsFrom script i ps.length) (hm : i ≤ m) (hlt : m < i + ps.length) :
    ∃ page, script.pageAt m = some page := by
  have hmem : (script.pageAt m).map InstanceList.items ∈ ps.map some := by
    rw [hps, itemsFrom]
    exact List.mem_map_of_mem (List.mem_range'_1.mpr ⟨hm, hlt⟩)
  obtain ⟨p, -, hp⟩ := List.mem_map.mp hmem
  obtain ⟨page, hpage, -⟩ := Option.map_eq_some_iff.mp hp.symm
  exact ⟨page, hpage⟩

/-- **A request that fails ends a walk** with its failure, behind the pages before it. -/
theorem PagesEnd.of_error {out : Outcome (World Nat) (List (List Instance) × WalkEnd)}
    (h : PagesEnd script allowance wanted 0 (m + 1) out) (hs : script m = .after ms (.error e)) :
    ∃ ps w, out = .answered (ps, .failed e) w ∧ ps.length = m := by
  cases h with
  | stopped hn hps =>
    obtain ⟨page, hp⟩ := pageAt_of_itemsFrom hps (Nat.zero_le m) (by omega)
    exact absurd hp (pageAt_ne_some_of_error hs)
  | exhausted hn hps =>
    obtain ⟨page, hp⟩ := pageAt_of_itemsFrom hps (Nat.zero_le m) (by omega)
    exact absurd hp (pageAt_ne_some_of_error hs)
  | failed hm hps hn hs' =>
    cases hn
    cases hs.symm.trans hs'
    exact ⟨_, _, rfl, by omega⟩
  | cut hn hgo =>
    obtain ⟨page, hp⟩ := pageAt_of_goesOn (hgo m (Nat.lt_succ_self m))
    exact absurd hp (pageAt_ne_some_of_error hs)
  | unanswered hn hs' =>
    cases hn
    cases hs.symm.trans hs'

theorem PagesEnd.answered_cases {ps : List (List Instance)} {how : WalkEnd} {w : World Nat} :
    PagesEnd script allowance wanted 0 n (.answered (ps, how) w) →
      ps.map some =
        (List.range ps.length).map (fun i => (script.pageAt i).map InstanceList.items) ∧
      match how with
      | .stopped => n = ps.length ∧ n ∈ wanted
      | .exhausted => n = ps.length ∧ n ∉ wanted ∧ ∃ m, n = m + 1 ∧ ¬ script.GoesOn m
      | .failed e => n = ps.length + 1 ∧ ∃ ms, script ps.length = .after ms (.error e) := by
  intro h
  rw [List.range_eq_range']
  cases h with
  | stopped hn hps hw =>
    rw [Nat.zero_add] at hn
    exact ⟨hps, hn, hw⟩
  | exhausted hn hps hw hm hl =>
    rw [Nat.zero_add] at hn
    exact ⟨hps, hn, hw, _, hm, hl⟩
  | failed hm hps hn hs =>
    rw [Nat.zero_add] at hm
    subst hm
    exact ⟨hps, hn, _, hs⟩

theorem PagesEnd.stuck_cases {w : World Nat}
    (h : PagesEnd script allowance wanted i n (.stuck w)) :
    n = allowance ∨ ∃ m < n, script m = .never := by
  cases h with
  | cut hn => exact .inl hn
  | unanswered hn hs => exact .inr ⟨_, by omega, hs⟩

variable {out : Outcome (World Nat) (Except MachineError Discovered)}

/-- **A request that fails makes a search fail.** -/
theorem SearchEnd.of_error (h : SearchEnd script s allowance (m + 1) out)
    (hs : script m = .after ms (.error e)) :
    ∃ w, out = .answered (.error e.toMachineError) w := by
  cases h with
  | hit hn hm =>
    cases hn
    obtain ⟨-, page, hp, -⟩ := hm
    exact absurd hp (pageAt_ne_some_of_error hs)
  | exhausted hn hp =>
    cases hn
    exact absurd hp (pageAt_ne_some_of_error hs)
  | failed hn hs' =>
    cases hn
    cases hs.symm.trans hs'
    exact ⟨_, rfl⟩
  | cut hn hgo =>
    obtain ⟨page, hp⟩ := pageAt_of_goesOn (hgo m (Nat.lt_succ_self m)).1
    exact absurd hp (pageAt_ne_some_of_error hs)
  | unanswered hn hs' =>
    cases hn
    cases hs.symm.trans hs'

/-- **A page that is given ends a search well**, unless it leads to another one. -/
theorem SearchEnd.of_page (h : SearchEnd script s allowance (m + 1) out)
    (hp : script.pageAt m = some page) (hend : ¬ (script.GoesOn m ∧ ¬ Hit script s m)) :
    ∃ w, out = .answered (.ok (s.scan .empty (itemsOf (pagesBefore script (m + 1)))).1) w := by
  cases h with
  | hit hn hm hs =>
    rw [hs]
    exact ⟨_, rfl⟩
  | exhausted hn hp ht hs =>
    rw [hs]
    exact ⟨_, rfl⟩
  | failed hn hs =>
    cases hn
    exact absurd hp (pageAt_ne_some_of_error hs)
  | cut hn hgo => exact absurd (hgo m (Nat.lt_succ_self m)) hend
  | unanswered hn hs =>
    cases hn
    cases hp.symm.trans (PageScript.pageAt_of_never hs)

theorem SearchEnd.stuck_cases {w : World Nat} (h : SearchEnd script s allowance n (.stuck w)) :
    n = allowance ∨ ∃ m < n, script m = .never := by
  cases h with
  | cut hn => exact .inl hn
  | unanswered hn hs => exact .inr ⟨_, by omega, hs⟩

end

/-! ### The whole protocol -/

section
variable {tags : List String} {name : Option String} {cluster role : String}

/-- **A page with the machine** that is looked for by its name. -/
def PageScript.Has (script : PageScript) (tags : List String) (name : Option String) (i : Nat) :
    Prop :=
  ∃ x ∈ name, ∃ page, script.pageAt i = some page ∧ ∃ y ∈ page.items, Owns tags x y

theorem hit_iff (hm : Markers.ofTags tags = ⟨some cluster, some role⟩) :
    Hit script ⟨project, zone, cluster, role, name⟩ i ↔ script.Has tags name i := by
  cases name with
  | none => simp [Hit, PageScript.Has]
  | some x => simp [Hit, PageScript.Has, wants_iff_owns hm]

theorem owned_of_has {x : String} (h : script.Has tags (some x) n) :
    ∃ y ∈ itemsOf (pagesBefore script (n + 1)), Owns tags x y := by
  obtain ⟨x', hx, page, hp, y, hy, howns⟩ := h
  obtain rfl := Option.some.inj hx
  exact ⟨y, mem_itemsOf_pagesBefore.mpr ⟨n, Nat.lt_succ_self n, page, hp, hy⟩, howns⟩

theorem scan_of_not_hit (h : ∀ j < n, ¬ Hit script s j) :
    (s.scan .empty (itemsOf (pagesBefore script n))).2 = false := by
  refine Bool.eq_false_iff.mpr fun hscan => ?_
  obtain ⟨hn, y, hy, hwants⟩ := scan_snd.mp hscan
  obtain ⟨j, hj, page, hp, hmem⟩ := mem_itemsOf_pagesBefore.mp hy
  exact h j hj ⟨hn, page, hp, y, hmem, hwants⟩

theorem scan_eq_collect {is : List Instance} (h : (s.scan .empty is).2 = false) :
    (s.scan .empty is).1 = s.collect is := by
  cases hn : s.name with
  | none =>
    rw [Search.scan_unnamed hn]
    rfl
  | some x =>
    have hall : ∀ y ∈ is, s.wants y = false := by
      refine fun y hy => Bool.eq_false_iff.mpr fun hwants => ?_
      have hhit : (s.scan .empty is).2 = true := scan_snd.mpr ⟨by rw [hn]; rfl, y, hy, hwants⟩
      exact Bool.false_ne_true (h.symm.trans hhit)
    rw [Search.scan_of_unwanted hall, Search.collect,
      List.filter_eq_nil_iff.mpr fun y hy => Bool.eq_false_iff.mp (hall y hy)]
    rfl

/-- **A search for a machine** ends at the first page that has it, with the machine. -/
theorem SearchEnd.of_has {out : Outcome (World Nat) (Except MachineError Discovered)} {x : String}
    (hm : Markers.ofTags tags = ⟨some cluster, some role⟩)
    (h : SearchEnd script ⟨project, zone, cluster, role, some x⟩ allowance (n + 1) out)
    (hhas : script.Has tags (some x) n) :
    ∃ w, out = .answered (.ok (single project zone x)) w := by
  have hhit : Hit script ⟨project, zone, cluster, role, some x⟩ n := (hit_iff hm).mpr hhas
  obtain ⟨-, page, hp, -⟩ := id hhit
  obtain ⟨w, hout⟩ := h.of_page hp fun hgo => hgo.2 hhit
  rw [scan_of_owned hm (owned_of_has hhas)] at hout
  exact ⟨w, hout⟩

/-- **A search that misses its machine** comes to what all pages together have. -/
theorem SearchEnd.of_missed {out : Outcome (World Nat) (Except MachineError Discovered)}
    (h : SearchEnd script s allowance (n + 1) out) (hp : script.pageAt n = some page)
    (hlast : ¬ script.GoesOn n) (hmiss : ∀ j < n + 1, ¬ Hit script s j) :
    ∃ w, out = .answered (.ok (s.collect (itemsOf (pagesBefore script (n + 1))))) w := by
  obtain ⟨w, hout⟩ := h.of_page hp fun hgo => hlast hgo.1
  rw [scan_eq_collect (scan_of_not_hit hmiss)] at hout
  exact ⟨w, hout⟩

/-- **The protocol of pages.** A walk over the pages of a zone makes some number of requests, the
first without a token and every further one with the token of the page before. Another request is
made exactly if the walk may see another page and wants to, and every page so far came with a token
that is not empty. The pages are handed out unchanged and in order. A request that fails is the
last, and its failure is handed out once, behind the pages before it. Without a failure the walk
ends because enough pages were seen or because the last one leads nowhere, and it waits for ever
only if it is cut off or a request is never answered.

A search that nobody cancels asks nothing if the tags lack a marker. Otherwise its requests are the
same, and there is none behind a page that has the machine: then the search has found it, whatever
the script goes on to say. A request that fails before makes the search fail with that failure, and
behind a last page without the machine it comes to what all pages together have. -/
theorem page_protocol (script : PageScript) (project zone : String) (allowance : Nat) :
    (∀ cancelAt wanted : Option Nat, ∃ n out,
      script.backend.run cancelAt (pages project zone allowance wanted none) (.start 0) = out ∧
      out.state.calls.map Prod.snd =
        (List.range n).map (fun i => .list project zone (script.tokenAt i)) ∧
      (∀ i, i < n ↔ (i < allowance ∧ ∀ k ∈ wanted, i < k) ∧ ∀ j < i, script.GoesOn j) ∧
      (∀ ps how w, out = .answered (ps, how) w →
        ps.map some = (List.range ps.length).map
          (fun i => (script.pageAt i).map InstanceList.items) ∧
        match how with
        | .stopped => n = ps.length ∧ n ∈ wanted
        | .exhausted => n = ps.length ∧ n ∉ wanted ∧ ∃ m, n = m + 1 ∧ ¬ script.GoesOn m
        | .failed e => n = ps.length + 1 ∧ ∃ ms, script ps.length = .after ms (.error e)) ∧
      (∀ m < n, ∀ ms e, script m = .after ms (.error e) →
        n = m + 1 ∧ ∃ ps w, out = .answered (ps, .failed e) w ∧ ps.length = m) ∧
      (∀ w, out = .stuck w → n = allowance ∨ ∃ m < n, script m = .never)) ∧
    ∀ tags name,
      ((Markers.ofTags tags).complete? = none →
        script.backend.run none (discover allowance project zone tags name) (.start 0) =
          .answered (.ok .empty) (.start 0)) ∧
      ∀ cluster role, (Markers.ofTags tags).complete? = some (cluster, role) → ∃ n out,
        script.backend.run none (discover allowance project zone tags name) (.start 0) = out ∧
        out.state.calls.map Prod.snd =
          (List.range n).map (fun i => .list project zone (script.tokenAt i)) ∧
        (∀ i, i < n ↔ i < allowance ∧ ∀ j < i, script.GoesOn j ∧ ¬ script.Has tags name j) ∧
        (∀ m < n, ∀ x ∈ name, script.Has tags name m →
          n = m + 1 ∧ ∃ w, out = .answered (.ok (single project zone x)) w) ∧
        (∀ m < n, ∀ ms e, script m = .after ms (.error e) →
          n = m + 1 ∧ ∃ w, out = .answered (.error e.toMachineError) w) ∧
        (∀ m < n, ∀ page, script.pageAt m = some page → ¬ script.GoesOn m →
          ¬ script.Has tags name m →
          n = m + 1 ∧ ∃ w, out = .answered (.ok (Search.collect ⟨project, zone, cluster, role, name⟩
            (itemsOf (pagesBefore script n)))) w) ∧
        (∀ w, out = .stuck w → n = allowance ∨ ∃ m < n, script m = .never) := by
  constructor
  · intro cancelAt wanted
    have hstart : Requested script project zone 0 (.start 0) := .start
    have hwanted : ∀ k ∈ wanted, 0 ≤ k := fun k _ => Nat.zero_le k
    obtain ⟨n, out, hrun, hreq, hup, hend⟩ :=
      run_pages cancelAt hstart (Nat.zero_add allowance) hwanted nofun
    rw [show wanted.map (· - 0) = wanted from Option.map_id'] at hrun
    refine ⟨n, out, hrun, hreq.calls, fun i => ?_, ?_, ?_, ?_⟩
    · rw [hup i, lt_mostPages]
    · rintro ps how w rfl
      exact hend.answered_cases
    · intro m hm ms e hs
      have hnot : ¬ script.GoesOn m := not_goesOn_of_none (PageScript.pageAt_of_error hs)
      obtain rfl := hup.last hm hnot
      exact ⟨rfl, hend.of_error hs⟩
    · rintro w rfl
      exact hend.stuck_cases
  · refine fun tags name => ⟨fun hc => run_discover_of_incomplete hc name _, ?_⟩
    intro cluster role hc
    have hm := Markers.complete?_eq_some.mp hc
    have hiff : ∀ j, Hit script ⟨project, zone, cluster, role, name⟩ j ↔ script.Has tags name j :=
      fun j => hit_iff hm
    have hstart : Requested script project zone 0 (.start 0) := .start
    obtain ⟨n, out, hrun, hreq, hup, hend⟩ := run_search
      (s := ⟨project, zone, cluster, role, name⟩) hstart (Nat.zero_add allowance) nofun rfl
    have hdiscover : script.backend.run none (discover allowance project zone tags name)
        (.start 0) = out := by
      rw [← hrun, discover, hc]
      rfl
    refine ⟨n, out, hdiscover, hreq.calls, ?_, ?_, ?_, ?_, ?_⟩
    · simpa only [UpTo, hiff] using hup
    · intro m hlt x hx hhas
      obtain rfl := Option.mem_def.mp hx
      obtain rfl := hup.last hlt fun h => h.2 ((hiff m).mpr hhas)
      exact ⟨rfl, hend.of_has hm hhas⟩
    · intro m hlt ms e hs
      have hnot : ¬ script.GoesOn m := not_goesOn_of_none (PageScript.pageAt_of_error hs)
      obtain rfl := hup.last hlt fun hgo => hnot hgo.1
      exact ⟨rfl, hend.of_error hs⟩
    · intro m hlt page hp hgo hhas
      have hbefore := ((hup m).mp hlt).2
      obtain rfl := hup.last hlt fun h => hgo h.1
      refine ⟨rfl, hend.of_missed hp hgo fun j hj => ?_⟩
      rcases Nat.lt_succ_iff_lt_or_eq.mp hj with hj | rfl
      · exact (hbefore j hj).2
      · exact fun hhit => hhas ((hiff j).mp hhit)
    · rintro w rfl
      exact hend.stuck_cases

end

end GceMachines.Lifecycle
