import Mathlib.Order.Interval.Finset.Nat
import GceMachines.Proofs.Lifecycle.Timeout

/-!
# The rhythm of a wait

However slow or fast the replies are, a wait for an operation never looks sooner than once per
interval, counted from its beginning: a look that comes late shifts those behind it, and nothing is
made up for. A look that is planned begins as soon as the one before it is answered, so two looks
never overlap. All looks begin before the deadline, and this bounds their number. If no reply takes
longer than an interval, the looks keep to its multiples, and a wait that nothing but the deadline
ends makes as many as the bound allows.

* `lookTime_eq_succ`: when a look begins, from the one before it.
* `le_planned`, `lookTime_of_prompt`: looks come no sooner than the multiples of the interval, and
  exactly with them if the replies are prompt.
* `Due`, `awaitOperation_due`: the looks that a wait makes are those that are due.
* `lt_card_ticksBefore`: how many multiples of the interval lie before the deadline.
* `awaitOperation_rhythm`: the number and the instants of the looks of a wait.
-/

namespace GceMachines.Lifecycle

variable {interval first deadline planned n : Nat} {script : LookScript} {cancelAt : Option Nat}
  {l l' : LookTime}

/-! ### The instants of the schedule -/

theorem add_le_nextTick (interval planned now : Nat) :
    planned + interval ≤ nextTick interval planned now := by
  unfold nextTick
  split <;> omega

/-- **When a look begins**, from the one before it and its reply. -/
theorem lookTime_eq_succ :
    lookTime interval first script (n + 1) = some l' ↔
      ∃ l ms r, lookTime interval first script n = some l ∧ script n = .after ms r ∧
        l'.planned = nextTick interval l.planned l.begins ∧
        l'.begins = max l'.planned (l.begins + ms) := by
  constructor
  · intro h
    obtain ⟨t, r, hr, -⟩ := lookTime_of_succ h
    obtain ⟨l, ms, hl, hs, -⟩ := replyAt_eq_some.mp hr
    rw [lookTime_succ hl hs] at h
    cases h
    exact ⟨l, ms, r, hl, hs, rfl, rfl⟩
  · rintro ⟨l, ms, r, hl, hs, hp, hb⟩
    rw [lookTime_succ hl hs, ← hp, ← hb]

theorem planned_le_begins (h : lookTime interval first script n = some l) :
    l.planned ≤ l.begins := by
  cases n with
  | zero =>
    cases h
    exact Nat.le_refl _
  | succ n =>
    obtain ⟨_, _, _, _, _, _, hb⟩ := lookTime_eq_succ.mp h
    rw [hb]
    exact Nat.le_max_left _ _

/-- **No look is planned sooner than the multiple of the interval** that would be its turn. -/
theorem le_planned (h : lookTime interval first script n = some l) :
    first + n * interval ≤ l.planned := by
  induction n generalizing l with
  | zero =>
    cases h
    rw [Nat.zero_mul]
    exact Nat.le_refl _
  | succ n ih =>
    obtain ⟨l₀, ms, r, hl₀, -, hp, -⟩ := lookTime_eq_succ.mp h
    calc first + (n + 1) * interval = first + n * interval + interval := by
          rw [Nat.succ_mul, Nat.add_assoc]
      _ ≤ l₀.planned + interval := Nat.add_le_add_right (ih hl₀) _
      _ ≤ nextTick interval l₀.planned l₀.begins := add_le_nextTick _ _ _
      _ = l.planned := hp.symm

/-- **Prompt replies keep the looks to the multiples of the interval.** -/
theorem lookTime_of_prompt (hprompt : ∀ k < n, ∀ ms r, script k = .after ms r → ms ≤ interval)
    (h : lookTime interval first script n = some l) :
    l.planned = first + n * interval ∧ l.begins = first + n * interval := by
  induction n generalizing l with
  | zero =>
    cases h
    rw [Nat.zero_mul]
    exact ⟨rfl, rfl⟩
  | succ n ih =>
    obtain ⟨l₀, ms, r, hl₀, hs, hp, hb⟩ := lookTime_eq_succ.mp h
    obtain ⟨hp₀, hb₀⟩ := ih (fun k hk => hprompt k (Nat.lt_succ_of_lt hk)) hl₀
    have hms : ms ≤ interval := hprompt n (Nat.lt_succ_self n) ms r hs
    have hturn : first + (n + 1) * interval = first + n * interval + interval := by
      rw [Nat.succ_mul, Nat.add_assoc]
    -- the look before was on time, so the tick behind it is kept
    have htick : l.planned = first + (n + 1) * interval := by
      rw [hp, hp₀, hb₀, nextTick, if_pos (Nat.le_add_right _ _), hturn]
    refine ⟨htick, ?_⟩
    rw [hb, htick, hb₀, hturn]
    exact Nat.max_eq_left (Nat.add_le_add_left hms _)

theorem exists_lookTime (hcomes : ∀ k < n, ∃ ms r, script k = .after ms r) :
    ∃ l, lookTime interval first script n = some l := by
  induction n with
  | zero => exact ⟨_, rfl⟩
  | succ n ih =>
    obtain ⟨l, hl⟩ := ih fun k hk => hcomes k (Nat.lt_succ_of_lt hk)
    obtain ⟨ms, r, hs⟩ := hcomes n (Nat.lt_succ_self n)
    exact ⟨_, lookTime_succ hl hs⟩

/-! ### The looks that a wait makes -/

/-- **A look that a wait comes to**: it begins before the deadline and the cancellation, and no
reply before it ends the wait. -/
structure Due (interval first deadline : Nat) (script : LookScript) (cancelAt : Option Nat)
    (n : Nat) (l : LookTime) : Prop where
  scheduled : lookTime interval first script n = some l
  inTime : l.begins < deadline
  notCancelled : ∀ c ∈ cancelAt, l.begins < c
  pending : ∀ k < n, ∀ x ∈ replyAt interval first script k, endsWait x.2 = false

theorem Due.of_succ (h : Due interval first deadline script cancelAt (n + 1) l') :
    ∃ l ms op, Due interval first deadline script cancelAt n l ∧
      script n = .after ms (.ok op) ∧ op.isDone = false ∧
      l'.planned = nextTick interval l.planned l.begins ∧
      l'.begins = max l'.planned (l.begins + ms) := by
  obtain ⟨l, ms, r, hl, hs, hp, hb⟩ := lookTime_eq_succ.mp h.scheduled
  have hle : l.begins ≤ l'.begins := by omega
  have hpending := h.pending n (Nat.lt_succ_self n) _ (replyAt_eq_some.mpr ⟨l, ms, hl, hs, rfl⟩)
  have hdue : Due interval first deadline script cancelAt n l :=
    ⟨hl, Nat.lt_of_le_of_lt hle h.inTime, fun c hc => Nat.lt_of_le_of_lt hle (h.notCancelled c hc),
      fun k hk => h.pending k (Nat.lt_succ_of_lt hk)⟩
  match r, hpending with
  | .ok op, hpending => exact ⟨l, ms, op, hdue, hs, hpending, hp, hb⟩

theorem Due.of_le {m : Nat} (hle : m ≤ n) (h : Due interval first deadline script cancelAt n l) :
    ∃ l₀, Due interval first deadline script cancelAt m l₀ := by
  induction n generalizing l with
  | zero =>
    obtain rfl := Nat.le_zero.mp hle
    exact ⟨l, h⟩
  | succ n ih =>
    rcases Nat.lt_or_eq_of_le hle with hlt | rfl
    · obtain ⟨l₀, ms, op, h₀, -⟩ := h.of_succ
      exact ih (Nat.le_of_lt_succ hlt) h₀
    · exact ⟨l, h⟩

section
variable {o : Awaited} {cfg : PollConfig} {w w' : World Nat}
  {how : Waited (Except ServiceError Operation)}

theorem AtLook.isDue (h : AtLook o cfg first deadline script cancelAt planned w) :
    Due cfg.intervalMs first deadline script cancelAt w.state ⟨planned, w.now⟩ :=
  ⟨h.due, h.inTime, h.notCancelled, h.pending⟩

theorem Awaiting.of_came (h : Awaiting o cfg first deadline script cancelAt planned w)
    (hs : script.backend.handler cancelAt (.sleep planned deadline) w = .answered (.came ()) w') :
    w'.state = w.state ∧
      AtLook o cfg first deadline script cancelAt planned (w'.measure .poll) := by
  rcases sleep_cases script cancelAt planned h.inTime with
    ⟨c, -, -, -, hc⟩ | ⟨-, -, hd⟩ | ⟨hcp, hpd, hp⟩
  · cases hc.symm.trans hs
  · cases hd.symm.trans hs
  · cases hp.symm.trans hs
    exact ⟨rfl, h.atLook hcp hpd⟩

theorem Awaiting.not_due (h : Awaiting o cfg first deadline script cancelAt planned w)
    {slept : Waited Unit}
    (hs : script.backend.handler cancelAt (.sleep planned deadline) w = .answered slept w')
    (hne : slept ≠ .came ()) :
    w'.state = w.state ∧
      ¬ ∃ l, Due cfg.intervalMs first deadline script cancelAt w.state l := by
  rcases sleep_cases script cancelAt planned h.inTime with
    ⟨c, hmem, -, hcp, hc⟩ | ⟨-, hdp, hd⟩ | ⟨-, -, hp⟩
  · cases hc.symm.trans hs
    refine ⟨rfl, fun ⟨l, hl⟩ => ?_⟩
    cases hl.scheduled.symm.trans h.next
    exact Nat.not_lt_of_le hcp (hl.notCancelled c hmem)
  · cases hd.symm.trans hs
    refine ⟨rfl, fun ⟨l, hl⟩ => ?_⟩
    cases hl.scheduled.symm.trans h.next
    exact Nat.not_lt_of_le hdp hl.inTime
  · cases hp.symm.trans hs
    exact absurd rfl hne

theorem AtLook.of_pending (h : AtLook o cfg first deadline script cancelAt planned w)
    {op : Operation} (hop : op.isDone = false)
    (hl : script.backend.handler cancelAt (.bounded (.operation o.project o.zone o.name) deadline)
      w = .answered (.came (.ok op)) w') :
    w'.state = w.state + 1 ∧ Awaiting o cfg first deadline script cancelAt
      (nextTick cfg.intervalMs planned w.now) w' := by
  rcases bounded_cases script o h.notCancelled h.inTime with
    ⟨c, -, -, -, hc⟩ | ⟨-, -, hd⟩ | ⟨ms, r, hr, hrc, hrd, hs⟩
  · cases hc.symm.trans hl
  · cases hd.symm.trans hl
  · cases hs.symm.trans hl
    exact ⟨rfl, h.awaiting hr hop hrc hrd⟩

theorem AtLook.not_due (h : AtLook o cfg first deadline script cancelAt planned w)
    (hend : isEnd how = true)
    (hl : script.backend.handler cancelAt (.bounded (.operation o.project o.zone o.name) deadline)
      w = .answered how w') :
    w'.state = w.state + 1 ∧
      ¬ ∃ l, Due cfg.intervalMs first deadline script cancelAt (w.state + 1) l := by
  rcases bounded_cases script o h.notCancelled h.inTime with
    ⟨c, hmem, -, hcr, hc⟩ | ⟨-, hdr, hd⟩ | ⟨ms, r, hr, -, -, hs⟩
  · cases hc.symm.trans hl
    refine ⟨rfl, fun ⟨l', hl'⟩ => ?_⟩
    obtain ⟨l, ms, op, hl, hr, -, -, hb⟩ := hl'.of_succ
    cases hl.scheduled.symm.trans h.due
    have hle : w.now + ms ≤ l'.begins := by
      rw [hb]
      exact Nat.le_max_right _ _
    exact Nat.not_lt_of_le (Nat.le_trans (hcr ms _ hr) hle) (hl'.notCancelled c hmem)
  · cases hd.symm.trans hl
    refine ⟨rfl, fun ⟨l', hl'⟩ => ?_⟩
    obtain ⟨l, ms, op, hl, hr, -, -, hb⟩ := hl'.of_succ
    cases hl.scheduled.symm.trans h.due
    have hle : w.now + ms ≤ l'.begins := by
      rw [hb]
      exact Nat.le_max_right _ _
    exact Nat.not_lt_of_le (Nat.le_trans (hdr ms _ hr) hle) hl'.inTime
  · cases hs.symm.trans hl
    refine ⟨rfl, fun ⟨l', hl'⟩ => ?_⟩
    obtain ⟨l, ms', op, -, hr', hop, -⟩ := hl'.of_succ
    cases hr'.symm.trans hr
    exact Bool.false_ne_true (hop.symm.trans hend)

/-- **A wait makes the looks that are due**, and ends before one that is not. -/
theorem Looked.settles
    (h : Looked script.backend cancelAt o cfg deadline planned w how w')
    (ha : Awaiting o cfg first deadline script cancelAt planned w)
    (hdue : ∀ k < w.state, ∃ l, Due cfg.intervalMs first deadline script cancelAt k l) :
    (∀ k < w'.state, ∃ l, Due cfg.intervalMs first deadline script cancelAt k l) ∧
      ¬ ∃ l, Due cfg.intervalMs first deadline script cancelAt w'.state l := by
  induction h with
  | cancelledAsleep hs =>
    obtain ⟨hstate, hnot⟩ := ha.not_due hs nofun
    rw [hstate]
    exact ⟨hdue, hnot⟩
  | lateAsleep hs =>
    obtain ⟨hstate, hnot⟩ := ha.not_due hs nofun
    rw [hstate]
    exact ⟨hdue, hnot⟩
  | last hs hl hend =>
    obtain ⟨-, hlook⟩ := ha.of_came hs
    obtain ⟨hstate, hnot⟩ := hlook.not_due hend hl
    rw [hstate]
    exact ⟨fun k hk => hlook.isDue.of_le (Nat.le_of_lt_succ hk), hnot⟩
  | more hs hl hop hr ih =>
    obtain ⟨-, hlook⟩ := ha.of_came hs
    obtain ⟨hstate, hnext⟩ := hlook.of_pending hop hl
    refine ih hnext fun k hk => ?_
    rw [hstate] at hk
    exact hlook.isDue.of_le (Nat.le_of_lt_succ hk)

/-- **The looks of a wait from its beginning** are the first looks of the schedule, as many as are
due. -/
theorem awaitOperation_due (script : LookScript) (cancelAt : Option Nat) (o : Awaited)
    (cfg : PollConfig) :
    ∃ result w, script.backend.run cancelAt (awaitOperation o cfg) (.start 0) =
        .answered result w ∧
      w.calls = scheduledCalls o cfg.intervalMs cfg.intervalMs script w.state ∧
      (∀ k < w.state,
        ∃ l, Due cfg.intervalMs cfg.intervalMs cfg.timeoutMs script cancelAt k l) ∧
      ¬ ∃ l, Due cfg.intervalMs cfg.intervalMs cfg.timeoutMs script cancelAt w.state l := by
  obtain ⟨result, w, hrun, -, hw⟩ := awaitOperation_comesTo script cancelAt o cfg
  obtain ⟨how, w₁, hlooked, -, rfl⟩ := run_awaitOperation_iff.mp hrun
  have h0 : (World.start 0).now = 0 := rfl
  rw [WaitEnded, h0, Nat.zero_add, Nat.zero_add] at hlooked
  obtain ⟨hdue, hnot⟩ := hlooked.settles (.start script cancelAt o cfg) nofun
  exact ⟨result, _, hrun, hw.calls, hdue, hnot⟩

end

/-! ### How many looks there are -/

/-- The multiples of an interval, from the first one on, that lie before a deadline. -/
def ticksBefore (interval deadline : Nat) : Finset Nat :=
  {k ∈ Finset.Icc 1 deadline | k * interval < deadline}

theorem mem_ticksBefore (hpos : 0 < interval) :
    n ∈ ticksBefore interval deadline ↔ 1 ≤ n ∧ n * interval < deadline := by
  have hle : n ≤ n * interval := Nat.le_mul_of_pos_right n hpos
  simp only [ticksBefore, Finset.mem_filter, Finset.mem_Icc]
  omega

theorem lt_card_ticksBefore (hpos : 0 < interval) :
    n < (ticksBefore interval deadline).card ↔ (n + 1) * interval < deadline := by
  have hticks : ticksBefore interval deadline = Finset.Icc 1 ((deadline - 1) / interval) := by
    ext k
    rw [mem_ticksBefore hpos, Finset.mem_Icc, Nat.le_div_iff_mul_le hpos]
    have hle : k ≤ k * interval := Nat.le_mul_of_pos_right k hpos
    omega
  have hturn : 0 < (n + 1) * interval := Nat.mul_pos (Nat.succ_pos n) hpos
  rw [hticks, Nat.card_Icc, Nat.add_sub_cancel, Nat.lt_iff_add_one_le, Nat.le_div_iff_mul_le hpos]
  omega

theorem Due.turn_le (h : Due interval interval deadline script cancelAt n l) :
    (n + 1) * interval ≤ l.begins := by
  calc (n + 1) * interval = interval + n * interval := by rw [Nat.succ_mul, Nat.add_comm]
    _ ≤ l.planned := le_planned h.scheduled
    _ ≤ l.begins := planned_le_begins h.scheduled

theorem Due.lt_card (hpos : 0 < interval)
    (h : Due interval interval deadline script cancelAt n l) :
    n < (ticksBefore interval deadline).card :=
  (lt_card_ticksBefore hpos).mpr (Nat.lt_of_le_of_lt h.turn_le h.inTime)

/-- If all replies are prompt and leave the operation running, a look is due at every multiple of
the interval before the deadline. -/
theorem exists_due_of_prompt (hpos : 0 < interval)
    (hprompt : ∀ k, ∃ ms op, script k = .after ms (.ok op) ∧ op.isDone = false ∧ ms ≤ interval)
    (hn : n < (ticksBefore interval deadline).card) :
    ∃ l, Due interval interval deadline script none n l := by
  have hcomes : ∀ k < n, ∃ ms r, script k = .after ms r := by
    intro k _
    obtain ⟨ms, op, hs, -⟩ := hprompt k
    exact ⟨ms, _, hs⟩
  obtain ⟨l, hl⟩ : ∃ l, lookTime interval interval script n = some l := exists_lookTime hcomes
  have hfast : ∀ k < n, ∀ ms r, script k = .after ms r → ms ≤ interval := by
    intro k _ ms r hs
    obtain ⟨ms', op, hs', -, hms⟩ := hprompt k
    cases hs.symm.trans hs'
    exact hms
  obtain ⟨-, hbegins⟩ := lookTime_of_prompt hfast hl
  refine ⟨l, hl, ?_, nofun, ?_⟩
  · rw [hbegins, Nat.add_comm, ← Nat.succ_mul]
    exact (lt_card_ticksBefore hpos).mp hn
  · rintro k _ ⟨t, r⟩ hr
    obtain ⟨l', ms, -, hs, -⟩ := replyAt_eq_some.mp hr
    obtain ⟨ms', op, hs', hop, -⟩ := hprompt k
    cases hs.symm.trans hs'
    exact hop

/-! ### The whole rhythm -/

/-- The instants of a look of the schedule. -/
def lookAt (interval first : Nat) (script : LookScript) (n : Nat) : LookTime :=
  (lookTime interval first script n).getD ⟨0, 0⟩

theorem Due.lookAt_eq (h : Due interval first deadline script cancelAt n l) :
    lookAt interval first script n = l := by
  rw [lookAt, h.scheduled, Option.getD_some]

theorem scheduledCalls_of_due (o : Awaited)
    (h : ∀ k < n, ∃ l, Due interval first deadline script cancelAt k l) :
    scheduledCalls o interval first script n = (List.range n).map fun k =>
      ((lookAt interval first script k).begins, .operation o.project o.zone o.name) := by
  rw [scheduledCalls, ← List.filterMap_eq_map]
  refine List.filterMap_congr fun k hk => ?_
  obtain ⟨l, hl⟩ := h k (List.mem_range.mp hk)
  rw [Function.comp_apply, hl.lookAt_eq, hl.scheduled, Option.map_some]

/-- **The rhythm of a wait for an operation.** It begins at the instant zero and comes to an end,
after some number of looks. No look begins before the multiple of the interval that is its turn,
nor at the deadline or the cancellation or after them, so there are at most as many as there are
multiples before the deadline. A look is followed only when it has been answered, by an operation
that still runs; the next one is planned one interval behind the instant planned for this one, or
behind the instant at which this one began if that was more than five milliseconds late, and begins
when that instant has come and this one is answered. If no reply takes longer than the interval,
looks begin exactly at its multiples, and if nothing but the deadline ends the wait, none of those
before it is left out. -/
theorem awaitOperation_rhythm (script : LookScript) (cancelAt : Option Nat) (o : Awaited)
    (cfg : PollConfig) :
    ∃ result w n, ∃ looks : Nat → LookTime,
      script.backend.run cancelAt (awaitOperation o cfg) (.start 0) = .answered result w ∧
      w.calls = (List.range n).map (fun k =>
        ((looks k).begins, .operation o.project o.zone o.name)) ∧
      (∀ k < n, (k + 1) * cfg.intervalMs ≤ (looks k).begins ∧
        (looks k).begins < cfg.timeoutMs ∧ ∀ c ∈ cancelAt, (looks k).begins < c) ∧
      n ≤ (ticksBefore cfg.intervalMs cfg.timeoutMs).card ∧
      looks 0 = ⟨cfg.intervalMs, cfg.intervalMs⟩ ∧
      (∀ k, k + 1 < n → ∃ ms op, script k = .after ms (.ok op) ∧ op.isDone = false ∧
        (looks k).begins + ms ≤ (looks (k + 1)).begins ∧
        (looks (k + 1)).begins = max (looks (k + 1)).planned ((looks k).begins + ms) ∧
        (looks (k + 1)).planned =
          if (looks k).begins ≤ (looks k).planned + 5 then (looks k).planned + cfg.intervalMs
          else (looks k).begins + cfg.intervalMs) ∧
      ((∀ k ms r, script k = .after ms r → ms ≤ cfg.intervalMs) →
        ∀ k < n, (looks k).begins = (k + 1) * cfg.intervalMs) ∧
      (cancelAt = none → (∀ k, ∃ ms op, script k = .after ms (.ok op) ∧ op.isDone = false ∧
        ms ≤ cfg.intervalMs) → n = (ticksBefore cfg.intervalMs cfg.timeoutMs).card) := by
  obtain ⟨result, w, hrun, hcalls, hdue, hnot⟩ := awaitOperation_due script cancelAt o cfg
  rw [scheduledCalls_of_due o hdue] at hcalls
  have hfew : w.state ≤ (ticksBefore cfg.intervalMs cfg.timeoutMs).card := by
    refine Nat.le_of_not_lt fun hlt => ?_
    obtain ⟨l, hl⟩ := hdue _ hlt
    exact Nat.lt_irrefl _ (hl.lt_card cfg.interval_pos)
  refine ⟨result, w, w.state, _, hrun, hcalls, ?_, hfew, rfl, ?_, ?_, ?_⟩
  · intro k hk
    obtain ⟨l, hl⟩ := hdue k hk
    rw [hl.lookAt_eq]
    exact ⟨hl.turn_le, hl.inTime, hl.notCancelled⟩
  · intro k hk
    obtain ⟨l', hl'⟩ := hdue (k + 1) hk
    obtain ⟨l, ms, op, hl, hs, hop, hplanned, hbegins⟩ := hl'.of_succ
    rw [hl'.lookAt_eq, hl.lookAt_eq]
    refine ⟨ms, op, hs, hop, ?_, hbegins, hplanned⟩
    rw [hbegins]
    exact Nat.le_max_right _ _
  · intro hprompt k hk
    obtain ⟨l, hl⟩ := hdue k hk
    obtain ⟨-, hbegins⟩ := lookTime_of_prompt (fun j _ => hprompt j) hl.scheduled
    rw [hl.lookAt_eq, hbegins, Nat.add_comm, ← Nat.succ_mul]
  · rintro rfl hprompt
    refine Nat.le_antisymm hfew (Nat.le_of_not_lt fun hlt => ?_)
    exact hnot (exists_due_of_prompt cfg.interval_pos hprompt hlt)

end GceMachines.Lifecycle
