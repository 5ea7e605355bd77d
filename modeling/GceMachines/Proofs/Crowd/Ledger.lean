import GceMachines.Proofs.Crowd.Journal
import GceMachines.Proofs.InMemory.Isolation

/-!
# No change is lost or made twice

However many lifecycle calls run against the service at the same time, and however their turns
follow each other, are delayed or cancelled, and calls fail by script, the store can be told from
what was accepted: a machine is stored exactly if it was stored before and the insertions and
deletions that took effect on it say so.

* `Move`, `Crowd.moves`: callers that join, have their turns, wait or are cancelled, and scripts.
* `Ledger`: what the accepted changes say about the service.
* `Ledger.record`, `Ledger.move`: one call and one move keep the ledger.
* `changes_conserved`: all moves.
-/

namespace GceMachines

open InMemory (operationName)

/-! ### Moves -/

/-- The plan of a lifecycle call, whatever its result. -/
def InMemory.Activity.plan (limits : Lifecycle.Limits) : Activity → Plan Unit
  | .create name spec secret => (Lifecycle.create limits name spec secret).bind fun _ => .done ()
  | .delete name spec secret => (Lifecycle.delete limits name spec secret).bind fun _ => .done ()
  | .status name spec secret => (Lifecycle.status limits name spec secret).bind fun _ => .done ()
  | .list spec secret => (Lifecycle.list limits spec secret).bind fun _ => .done ()
  | .describe id secret => (Lifecycle.describe id secret).bind fun _ => .done ()

/-- **What may happen next** in a crowd. -/
inductive Move
  /-- Another lifecycle call begins, with credentials that may be refused. -/
  | join (a : InMemory.Activity) (limits : Lifecycle.Limits) (refusal : Option ServiceError)
  /-- A caller has its turn. -/
  | turn (i : Nat)
  /-- Time passes for a caller. -/
  | delay (i ms : Nat)
  /-- A caller is cancelled, now or at an instant to come. -/
  | cancel (i instant : Nat)
  /-- Failures are scripted, and looks at operations are answered or not. -/
  | script (failures : ScriptedFailures) (pollsHang : Bool)

namespace Crowd

/-- A service at which nobody calls yet. -/
def around (m : InMemory) : Crowd Journal Unit := ⟨⟨m, []⟩, []⟩

/-- A crowd after a move. -/
def move (c : Crowd Journal Unit) : Move → Crowd Journal Unit
  | .join a limits refusal =>
    { c with
      callers := c.callers ++
        [⟨Journal.backend c.callers.length refusal, none, a.plan limits, World.start ()⟩] }
  | .turn i => c.turn i
  | .delay i ms =>
    { c with
      callers := c.callers.modify i fun p =>
        { p with moment := p.moment.advance (p.moment.now + ms) } }
  | .cancel i instant =>
    { c with callers := c.callers.modify i fun p => { p with cancelAt := some instant } }
  | .script failures pollsHang =>
    { c with state := { c.state with service := { c.state.service with failures, pollsHang } } }

/-- **A crowd after any number of moves.** -/
def moves (c : Crowd Journal Unit) (ms : List Move) : Crowd Journal Unit := ms.foldl move c

end Crowd

/-! ### The ledger -/

/-- How often a machine is stored, once or not at all. -/
def InMemory.stored (m : InMemory) (k : MachineId) : Nat :=
  if m.instances.contains k then 1 else 0

/-- **A change took effect** on a machine: no errors were scripted for its operation. -/
def Change.Affects (kind : ChangeKind) (k : MachineId) (ch : Change) : Prop :=
  ch.kind = kind ∧ ch.target = k ∧ ch.outcome = none

instance (kind : ChangeKind) (k : MachineId) : DecidablePred (Change.Affects kind k) := fun ch =>
  inferInstanceAs (Decidable (ch.kind = kind ∧ ch.target = k ∧ ch.outcome = none))

/-- How many changes of a kind took effect on a machine. -/
def Journal.effects (j : Journal) (kind : ChangeKind) (k : MachineId) : Nat :=
  j.changes.countP fun ch => ch.Affects kind k

/-- **The ledger** of a service since it was `m`. -/
structure Ledger (m : InMemory) (j : Journal) : Prop where
  balanced : ∀ k, m.stored k + j.effects .insertion k = j.service.stored k + j.effects .deletion k
  serial_eq : j.service.serial = m.serial + j.changes.length
  /-- The operations were started one after another. -/
  numbered : j.changes.map Change.operation =
    (List.range j.changes.length).map fun n => operationName (m.serial + n)
  /-- Every accepted change has an entry. -/
  entered : ∀ ch ∈ j.changes, ∃ o, j.service.operations.get? ch.operation = some o ∧ ch.Entry o
  /-- There are no entries but those of accepted changes and the earlier ones. -/
  known : ∀ name, j.service.operations.contains name = true ↔
    m.operations.contains name = true ∨ name ∈ j.changes.map Change.operation

variable {m m' : InMemory} {j : Journal} {ch : Change} {k : MachineId} {kind : ChangeKind}

theorem Ledger.open (m : InMemory) : Ledger m ⟨m, []⟩ where
  balanced _ := rfl
  serial_eq := rfl
  numbered := rfl
  entered := nofun
  known name := by simp [Journal.changes]

theorem Ledger.not_mem_operations (h : Ledger m j) :
    operationName j.service.serial ∉ j.changes.map Change.operation := by
  rw [h.numbered, List.mem_map]
  rintro ⟨n, hn, he⟩
  rw [InMemory.operationName_inj, h.serial_eq] at he
  have := List.mem_range.mp hn
  omega

/-! ### One call -/

/-- **An accepted change** moves the balance of its machine by what it is counted for. -/
theorem Change.Made.balance (h : ch.Made m m') (k : MachineId) :
    m.stored k + (if ch.Affects .insertion k then 1 else 0) =
      m'.stored k + (if ch.Affects .deletion k then 1 else 0) := by
  obtain ⟨kind, target, operation, outcome⟩ := ch
  have hguard := h.guard
  unfold InMemory.stored Change.Affects
  dsimp only at hguard ⊢
  cases outcome with
  | some errors =>
    rw [h.failed rfl]
    simp
  | none =>
    have heffect := h.effect rfl
    cases kind with
    | insertion =>
      obtain ⟨i, -, hafter⟩ := heffect
      rw [hafter, SortedMap.contains_insert]
      by_cases hk : target = k
      · subst hk
        simp [hguard]
      · simp [hk, Ne.symm hk]
    | deletion =>
      have hafter : m'.instances = m.instances.erase target := heffect
      rw [hafter, SortedMap.contains_erase]
      by_cases hk : target = k
      · subst hk
        simp [hguard]
      · simp [hk, Ne.symm hk]

theorem Journal.effects_append {j' : Journal} {chs : List Change}
    (hv : j'.changes = j.changes ++ chs) (kind : ChangeKind) (k : MachineId) :
    j'.effects kind k = j.effects kind k + chs.countP fun ch => ch.Affects kind k := by
  unfold effects
  rw [hv, List.countP_append]

theorem Ledger.unmade {j' : Journal} (h : Ledger m j) (hu : j.service.Unmade j'.service)
    (hv : j'.changes = j.changes) : Ledger m j' := by
  have hlook (name : String) (o : StartedOperation) :
      j.service.operations.get? name = some o →
      j'.service.operations.get? name = some o ∨ j'.service.operations.get? name = some o.look := by
    intro ho
    rcases hu.operations name with hs | hs
    · exact .inl (hs.trans ho)
    · exact .inr (by rw [hs, ho]; rfl)
  refine ⟨fun k => ?_, ?_, ?_, fun ch hch => ?_, fun name => ?_⟩
  · have hb := h.balanced k
    unfold InMemory.stored Journal.effects at hb ⊢
    rw [hu.instances_eq, hv]
    exact hb
  · rw [hu.serial_eq, hv, h.serial_eq]
  · rw [hv, h.numbered]
  · rw [hv] at hch
    obtain ⟨o, ho, he⟩ := h.entered ch hch
    rcases hlook _ _ ho with hs | hs
    · exact ⟨o, hs, he⟩
    · exact ⟨o.look, hs, he.look⟩
  · rw [hv, ← h.known name]
    unfold SortedMap.contains
    rcases hu.operations name with hs | hs <;> rw [hs]
    rw [Option.isSome_map]

theorem Ledger.made {j' : Journal} (h : Ledger m j) (hm : ch.Made j.service j'.service)
    (hv : j'.changes = j.changes ++ [ch]) : Ledger m j' := by
  have hfresh := h.not_mem_operations
  rw [← hm.operation_eq] at hfresh
  obtain ⟨o, hentry, -, -, hoperations⟩ := hm.started
  refine ⟨fun k => ?_, ?_, ?_, fun ch' hch => ?_, fun name => ?_⟩
  · have hb := h.balanced k
    have hc := hm.balance k
    rw [Journal.effects_append hv, Journal.effects_append hv, List.countP_singleton,
      List.countP_singleton]
    simp only [decide_eq_true_eq]
    omega
  · rw [hm.serial_eq, h.serial_eq, hv, List.length_append, List.length_singleton, Nat.add_assoc]
  · rw [hv, List.map_append, List.length_append, List.length_singleton, List.range_succ,
      List.map_append, h.numbered]
    simp [hm.operation_eq, h.serial_eq]
  · rw [hv] at hch
    rw [hoperations]
    rcases List.mem_append.mp hch with hch | hch
    · -- the new entry stands under another name
      have hne : ch'.operation ≠ ch.operation := fun he =>
        hfresh (he ▸ List.mem_map_of_mem hch)
      obtain ⟨o', ho', he'⟩ := h.entered ch' hch
      exact ⟨o', (SortedMap.get?_insert_of_ne hne).trans ho', he'⟩
    · obtain rfl := List.mem_singleton.mp hch
      exact ⟨o, SortedMap.get?_insert_self, hentry⟩
  · rw [hoperations, SortedMap.contains_insert, hv, List.map_append, List.mem_append,
      Bool.or_eq_true, h.known name]
    simp only [decide_eq_true_eq, List.map_cons, List.map_nil, List.mem_singleton]
    rw [or_comm, or_assoc]

/-- **One call keeps the ledger.** -/
theorem Ledger.record (h : Ledger m j) (i : Nat) (r : Request) : Ledger m (j.record i r) := by
  cases hc : j.service.change? r with
  | none => exact h.unmade (InMemory.unmade_of_change? hc) (by simp [hc])
  | some ch => exact h.made (InMemory.made_of_change? hc) (by simp [hc])

/-- **One journal follows another**: no change was accepted, or one. -/
def Journal.Follows (j j' : Journal) : Prop :=
  (j'.changes = j.changes ∧ j'.service.instances = j.service.instances) ∨
    ∃ ch : Change, j'.changes = j.changes ++ [ch] ∧ ch.Made j.service j'.service

theorem Journal.follows_record (j : Journal) (i : Nat) (r : Request) :
    j.Follows (j.record i r) := by
  cases hc : j.service.change? r with
  | none => exact .inl ⟨by simp [hc], (InMemory.unmade_of_change? hc).instances_eq⟩
  | some ch => exact .inr ⟨ch, by simp [hc], InMemory.made_of_change? hc⟩

/-- **An instance that is there** stays as it is, unless a deletion of it takes effect. -/
theorem Change.Made.keeps (h : ch.Made m m') {i : Instance} (hi : m.instances.get? k = some i) :
    m'.instances.get? k = some i ∨ ch.Affects .deletion k ∧ m'.instances.get? k = none := by
  obtain ⟨kind, target, operation, outcome⟩ := ch
  cases outcome with
  | some errors =>
    rw [h.failed rfl]
    exact .inl hi
  | none =>
    have hguard := h.guard
    have heffect := h.effect rfl
    cases kind with
    | insertion =>
      obtain ⟨j, -, hafter⟩ := heffect
      have hne : k ≠ target := by
        rintro rfl
        simp [SortedMap.contains, hi] at hguard
      rw [hafter, SortedMap.get?_insert_of_ne hne]
      exact .inl hi
    | deletion =>
      have hafter : m'.instances = m.instances.erase target := heffect
      rw [hafter]
      by_cases hk : k = target
      · subst hk
        exact .inr ⟨⟨rfl, rfl, rfl⟩, SortedMap.get?_erase_self⟩
      · rw [SortedMap.get?_erase_of_ne hk]
        exact .inl hi

/-- **A machine that is absent** stays absent, unless an insertion of it takes effect. -/
theorem Change.Made.keeps_absent (h : ch.Made m m') (hk : m.instances.get? k = none) :
    m'.instances.get? k = none ∨ ch.Affects .insertion k := by
  obtain ⟨kind, target, operation, outcome⟩ := ch
  cases outcome with
  | some errors =>
    rw [h.failed rfl]
    exact .inl hk
  | none =>
    have heffect := h.effect rfl
    cases kind with
    | insertion =>
      by_cases hne : k = target
      · exact .inr ⟨rfl, hne.symm, rfl⟩
      · obtain ⟨i, -, hafter⟩ := heffect
        rw [hafter, SortedMap.get?_insert_of_ne hne]
        exact .inl hk
    | deletion =>
      have hafter : m'.instances = m.instances.erase target := heffect
      rw [hafter]
      by_cases hne : k = target
      · rw [hne]
        exact .inl SortedMap.get?_erase_self
      · rw [SortedMap.get?_erase_of_ne hne]
        exact .inl hk

/-! ### One move -/

namespace Crowd

variable {c : Crowd Journal Unit}

/-- Every caller reaches the service through the journal. -/
def Journaled (c : Crowd Journal Unit) : Prop :=
  ∀ p ∈ c.callers, ∃ i refusal, p.backend = Journal.backend i refusal

/-- **A turn** is not noticed by the service, or it is written down. -/
theorem state_of_turn (h : c.Journaled) (i : Nat) :
    (c.turn i).state = c.state ∨ ∃ k r, (c.turn i).state = c.state.record k r := by
  unfold turn
  split
  · exact .inl rfl
  · next p hp =>
    obtain ⟨k, refusal, hb⟩ := h p (List.mem_of_getElem? hp)
    rcases p.state_turn c.state with hs | ⟨q, next, -, hs⟩
    · exact .inl hs
    · rw [hb] at hs
      dsimp only
      rw [hs]
      rcases Journal.state_of_handler k refusal p.cancelAt q (p.moment.within c.state) with
        hq | ⟨r, -, hq⟩
      · exact .inl hq
      · exact .inr ⟨k, r, hq⟩

theorem of_mem_modify {ps : List (Caller Journal Unit)} {i : Nat}
    {f : Caller Journal Unit → Caller Journal Unit} {p : Caller Journal Unit}
    (h : p ∈ ps.modify i f) : ∃ p₀ ∈ ps, p = p₀ ∨ p = f p₀ := by
  obtain ⟨n, hn⟩ := List.mem_iff_getElem?.mp h
  rw [List.getElem?_modify] at hn
  obtain ⟨p₀, hp₀, hp⟩ := Option.map_eq_some_iff.mp hn
  refine ⟨p₀, List.mem_of_getElem? hp₀, ?_⟩
  split at hp
  · exact .inr hp.symm
  · exact .inl hp.symm

theorem Journaled.move (h : c.Journaled) (mv : Move) : (c.move mv).Journaled := by
  intro p hp
  cases mv with
  | join a limits refusal =>
    rcases List.mem_append.mp hp with hp | hp
    · exact h p hp
    · obtain rfl := List.mem_singleton.mp hp
      exact ⟨_, refusal, rfl⟩
  | turn i =>
    simp only [Crowd.move, Crowd.turn] at hp
    split at hp
    · exact h p hp
    · next p₀ hp₀ =>
      rcases List.mem_or_eq_of_mem_set hp with hp | rfl
      · exact h p hp
      · rw [(p₀.backend_turn c.state).1]
        exact h p₀ (List.mem_of_getElem? hp₀)
  | delay i ms =>
    obtain ⟨p₀, hp₀, he | he⟩ := of_mem_modify hp <;> rw [he] <;> exact h p₀ hp₀
  | cancel i instant =>
    obtain ⟨p₀, hp₀, he | he⟩ := of_mem_modify hp <;> rw [he] <;> exact h p₀ hp₀
  | script failures pollsHang => exact h p hp

/-- **One move keeps the ledger.** -/
theorem ledger_move (h : Ledger m c.state) (hc : c.Journaled) (mv : Move) :
    Ledger m (c.move mv).state := by
  cases mv with
  | join a limits refusal => exact h
  | delay i ms => exact h
  | cancel i instant => exact h
  | script failures pollsHang => exact h.unmade ⟨rfl, rfl, fun _ => .inl rfl⟩ rfl
  | turn i =>
    rcases state_of_turn hc i with hs | ⟨k, r, hs⟩
    · exact hs.symm ▸ h
    · exact hs.symm ▸ h.record k r

theorem follows_move (hc : c.Journaled) (mv : Move) : c.state.Follows (c.move mv).state := by
  cases mv with
  | join a limits refusal => exact .inl ⟨rfl, rfl⟩
  | delay i ms => exact .inl ⟨rfl, rfl⟩
  | cancel i instant => exact .inl ⟨rfl, rfl⟩
  | script failures pollsHang => exact .inl ⟨rfl, rfl⟩
  | turn i =>
    rw [show (c.move (.turn i)).state = (c.turn i).state from rfl]
    rcases state_of_turn hc i with hs | ⟨k, r, hs⟩
    · exact .inl ⟨by rw [hs], by rw [hs]⟩
    · rw [hs]
      exact c.state.follows_record k r

/-! ### Any number of moves -/

theorem journaled_moves (hc : c.Journaled) (ms : List Move) : (c.moves ms).Journaled := by
  induction ms generalizing c with
  | nil => exact hc
  | cons mv ms ih => exact ih (hc.move mv)

theorem ledger_moves (h : Ledger m c.state) (hc : c.Journaled) (ms : List Move) :
    Ledger m (c.moves ms).state := by
  induction ms generalizing c with
  | nil => exact h
  | cons mv ms ih => exact ih (ledger_move h hc mv) (hc.move mv)

end Crowd

theorem Ledger.nodup (h : Ledger m j) : (j.changes.map Change.operation).Nodup := by
  rw [h.numbered]
  refine List.pairwise_map.mpr (List.Pairwise.imp (fun hne he => hne ?_) List.nodup_range)
  exact Nat.add_left_cancel (InMemory.operationName_inj.mp he)

/-- **No change is lost or made twice.** Whatever lifecycle calls run at the same time, in whatever
order they have their turns, however long these take, whenever calls are cancelled and whatever
failures are scripted: for every machine, whether it was stored, with the insertions and without
the deletions that took effect, tells whether it is stored. Every instance stands under its own
name, and every accepted change has an entry of its own among the operations, where nothing else
was put. An insertion is accepted only if the machine is absent, and a deletion only if it is
there; an instance that is there stays as it is until a deletion of it takes effect. -/
theorem changes_conserved (m : InMemory) (ms : List Move) :
    (∀ k, (m.stored k : Int) + ((Crowd.around m).moves ms).state.effects .insertion k -
      ((Crowd.around m).moves ms).state.effects .deletion k =
        ((Crowd.around m).moves ms).state.service.stored k) ∧
    (∀ e ∈ ((Crowd.around m).moves ms).state.service.instances.entries, e.1.name = e.2.name) ∧
    (((Crowd.around m).moves ms).state.changes.map Change.operation).Nodup ∧
    (∀ ch ∈ ((Crowd.around m).moves ms).state.changes, ∃ o,
      ((Crowd.around m).moves ms).state.service.operations.get? ch.operation = some o ∧
        ch.Entry o) ∧
    (∀ name, ((Crowd.around m).moves ms).state.service.operations.contains name = true ↔
      m.operations.contains name = true ∨
        name ∈ ((Crowd.around m).moves ms).state.changes.map Change.operation) ∧
    ((∀ n, m.serial ≤ n → m.operations.contains (operationName n) = false) →
      ∀ ch ∈ ((Crowd.around m).moves ms).state.changes,
        m.operations.contains ch.operation = false) ∧
    ∀ mv, (((Crowd.around m).moves (ms ++ [mv])).state.changes =
          ((Crowd.around m).moves ms).state.changes ∧
        ((Crowd.around m).moves (ms ++ [mv])).state.service.instances =
          ((Crowd.around m).moves ms).state.service.instances) ∨
      ∃ ch : Change, ((Crowd.around m).moves (ms ++ [mv])).state.changes =
          ((Crowd.around m).moves ms).state.changes ++ [ch] ∧
        ((Crowd.around m).moves ms).state.service.instances.contains ch.target =
          decide (ch.kind = .deletion) ∧
        ∀ k i, ((Crowd.around m).moves ms).state.service.instances.get? k = some i →
          ((Crowd.around m).moves (ms ++ [mv])).state.service.instances.get? k = some i ∨
          ch.Affects .deletion k ∧
            ((Crowd.around m).moves (ms ++ [mv])).state.service.instances.get? k = none := by
  have hc : (Crowd.around m).Journaled := nofun
  have h := Crowd.ledger_moves (.open m) hc ms
  have hjournaled := Crowd.journaled_moves hc ms
  refine ⟨fun k => ?_, InMemory.named _, h.nodup, h.entered, h.known, fun hfresh ch hch => ?_,
    fun mv => ?_⟩
  · have := h.balanced k
    omega
  · have hop := List.mem_map_of_mem (f := Change.operation) hch
    rw [h.numbered, List.mem_map] at hop
    obtain ⟨n, -, hn⟩ := hop
    rw [← hn]
    exact hfresh _ (Nat.le_add_right _ _)
  · have hlast : (Crowd.around m).moves (ms ++ [mv]) = ((Crowd.around m).moves ms).move mv := by
      unfold Crowd.moves
      rw [List.foldl_append, List.foldl_cons, List.foldl_nil]
    rw [hlast]
    rcases Crowd.follows_move hjournaled mv with hsame | ⟨ch, hch, hmade⟩
    · exact .inl hsame
    · exact .inr ⟨ch, hch, hmade.guard, fun k i => hmade.keeps⟩

end GceMachines
