import GceMachines.Compute.Backends
import GceMachines.Proofs.Driver
import GceMachines.Proofs.Lifecycle.Reconciliation

/-!
# What the counters tell

Whoever reads the counters behind a sequence of driver calls learns what has happened: how many
lifecycle calls ended, and how, how often operations were looked at, and how many changes were
accepted. That holds for every sequence, whatever the service answers or fails to answer, and
whenever the calls are cancelled. A call that does not get through the gate is counted nowhere, and
neither is the description of a machine.

* `World.reading`: what a counter shows.
* `Measure.eq_of_text_eq`: what a plan counts has a text of its own.
* `Driver.Call`, `Driver.history`: calls of the driver, one after the other.
* `Driver.Call.reconciled`, `Driver.reconciled_history`: one call, and all of them.
* `Driver.counters_reconcile`: the counters agree with what has happened.
-/

namespace GceMachines

/-! ### Reading a counter -/

/-- **What a counter shows**: how often the measure of a text was touched. -/
def World.reading {σ : Type} (w : World σ) (text : String) : Nat :=
  (w.measures.map Measure.text).count text

namespace Measure

variable {call call' : LifecycleCall} {failure failure' : Option ErrorCode} {m m' : Measure}

/-- What the counter of a lifecycle call says of how it ended. -/
def outcomeLabel (failure : Option ErrorCode) : String := (failure.map ErrorCode.name).getD "ok"

theorem outcomeLabel_injective : Function.Injective outcomeLabel := by
  intro failure failure' h
  rcases failure with _ | code <;> rcases failure' with _ | code'
  · rfl
  · cases code' <;> simp [outcomeLabel, ErrorCode.name] at h
  · cases code <;> simp [outcomeLabel, ErrorCode.name] at h
  · cases code <;> cases code' <;> simp [outcomeLabel, ErrorCode.name] at h <;> rfl

theorem toList_text_finished (call : LifecycleCall) (failure : Option ErrorCode) :
    (finished call failure).text.toList =
      "gce_lifecycle_total\x7bop=".toList ++ (call.name.toList ++ (",outcome=".toList ++
        ((outcomeLabel failure).toList ++ "\x7d".toList))) := by
  simp [text, labelled, outcomeLabel]

theorem eq_of_text_finished_eq
    (h : (finished call failure).text = (finished call' failure').text) :
    call = call' ∧ failure = failure' := by
  have hlist := congrArg String.toList h
  rw [toList_text_finished, toList_text_finished] at hlist
  have hrest := List.append_cancel_left hlist
  have hcall : call = call' := by
    cases call <;> cases call' <;> first | rfl | simp [LifecycleCall.name] at hrest
  subst hcall
  have hlabel := List.append_cancel_right
    (List.append_cancel_left (List.append_cancel_left hrest))
  exact ⟨rfl, outcomeLabel_injective (String.toList_inj.mp hlabel)⟩

/-- **What a plan counts has a text of its own.** -/
theorem eq_of_text_eq (hm : ∀ call status, m ≠ .apiRequest call status) (h : m'.text = m.text) :
    m' = m := by
  have hlist := congrArg String.toList h
  cases m with
  | apiRequest call status => exact absurd rfl (hm call status)
  | finished call failure =>
    cases m' with
    | finished call' failure' =>
      obtain ⟨rfl, rfl⟩ := eq_of_text_finished_eq h
      rfl
    | _ => simp [text, labelled] at hlist
  | poll =>
    cases m' with
    | poll => rfl
    | _ => simp [text, labelled] at hlist
  | operationWait =>
    cases m' with
    | operationWait => rfl
    | _ => simp [text, labelled] at hlist

theorem count_finished (ms : List Measure) (e : Ending) :
    ms.count (finished e.1 e.2) = (ms.filterMap ending?).count e := by
  rw [List.count, List.count, List.countP_filterMap]
  refine List.countP_congr fun m _ => ?_
  cases m <;> simp [ending?, Prod.ext_iff]

end Measure

theorem World.reading_text {σ : Type} (w : World σ) {m : Measure}
    (hm : ∀ call status, m ≠ .apiRequest call status) : w.reading m.text = w.measures.count m := by
  unfold reading
  rw [List.count, List.countP_map]
  refine List.countP_congr fun m' _ => ?_
  simp only [Function.comp_apply, beq_iff_eq]
  exact ⟨Measure.eq_of_text_eq hm, fun h => h ▸ rfl⟩

/-! ### Calls of the driver -/

namespace Driver

open Lifecycle Program

/-- **A call of the driver.** -/
inductive Call
  | create (name : String) (spec : List UInt8) (secret : Secret)
  | delete (name : String) (spec : List UInt8) (secret : Secret)
  | status (name : String) (spec : List UInt8) (secret : Secret)
  | list (spec : List UInt8) (secret : Secret)
  | describe (id : String) (secret : Secret)

/-- The code of a failure. -/
def code? {α : Type} : Except DriverError α → Option ErrorCode
  | .ok _ => none
  | .error e => some e.code

/-- A plan of which only the code of its failure is told. -/
def judged {α : Type} (p : Plan (Except DriverError α)) : Plan (Option ErrorCode) :=
  p.bind fun d => .done (code? d)

namespace Call

/-- What a call does, told by the code of its failure. -/
def plan (limits : Limits) : Call → Plan (Option ErrorCode)
  | .create name spec secret => judged (Driver.create limits name spec secret)
  | .delete name spec secret => judged (Driver.delete limits name spec secret)
  | .status name spec secret => judged (Driver.status limits name spec secret)
  | .list spec secret => judged (Driver.list limits spec secret)
  | .describe id secret => judged (Driver.describe id secret)

/-- A lifecycle call for a specification that passes the gate. -/
def behindGate (op : LifecycleCall) (spec : List UInt8) (secret : Secret) : Option LifecycleCall :=
  (Admission.accept spec secret).toOption.map fun _ => op

/-- **The lifecycle call that a call comes to**, if it is one that is counted and its specification
passes the gate. -/
def lifecycle? : Call → Option LifecycleCall
  | .create _ spec secret => behindGate .create spec secret
  | .delete _ spec secret => behindGate .delete spec secret
  | .status _ spec secret => behindGate .status spec secret
  | .list spec secret => behindGate .list spec secret
  | .describe _ _ => none

end Call

/-- Calls one after the other, each of which is cancelled at an instant, or never. A call that waits
for ever is given up. Each call is shown with what it came to, if it ended: its failure if it
failed. -/
def history {σ : Type} (b : Backend σ) (limits : Limits) :
    List (Call × Option Nat) → World σ → List (Call × Option (Option ErrorCode)) × World σ
  | [], w => ([], w)
  | (c, cancelAt) :: cs, w =>
    let out := b.run cancelAt (c.plan limits) w
    let (later, w) := history b limits cs out.state
    ((c, out.result?) :: later, w)

/-- The end of a lifecycle call behind a call of the driver, if there is one. -/
def ending? (e : Call × Option (Option ErrorCode)) : Option Ending :=
  e.1.lifecycle?.bind fun op => e.2.map fun failure => (op, failure)

variable {σ α β : Type} {b : Backend σ} {cancelAt : Option Nat} {limits : Limits}
  {ended : List Ending} {w : World (σ × List Served)}

/-! ### Without the record -/

/-- **The record changes nothing** for a sequence of calls. -/
theorem history_recording (b : Backend σ) (limits : Limits) :
    ∀ (cs : List (Call × Option Nat)) {v : World (σ × List Served)} {w : World σ},
      World.Agree (fun x s => x.1 = s) v w →
        (history b.recording limits cs v).1 = (history b limits cs w).1 ∧
          World.Agree (fun x s => x.1 = s) (history b.recording limits cs v).2
            (history b limits cs w).2
  | [], _, _, hw => ⟨rfl, hw⟩
  | (c, cancelAt) :: cs, v, w, hw => by
    have hrun := b.run_recording_agree cancelAt hw (c.plan limits)
    have hresult := hrun.result?_eq
    obtain ⟨hlater, hend⟩ := history_recording b limits cs hrun.state
    exact ⟨by simp only [history, hresult, hlater], hend⟩

/-! ### Calls that count nothing -/

theorem idle_judged_during {p : Plan (Except MachineError α)} (hp : p.Asks Ask.Idle)
    (activity : String) (f : α → β) : (judged (during activity p f)).Asks Ask.Idle := by
  unfold judged during
  refine Asks.bind (fun d => ?_) (Asks.bind (fun r => ?_) hp)
  · trivial
  · cases r <;> trivial

theorem idle_judged_gated {op : LifecycleCall} {activity : String} {spec : List UInt8}
    {secret : Secret} {p : ProviderSpec → Plan (Except MachineError α)} {f : α → β}
    (h : Call.behindGate op spec secret = none) :
    (judged (gated activity spec secret p f)).Asks Ask.Idle := by
  unfold Call.behindGate at h
  unfold gated
  cases ha : Admission.accept spec secret with
  | error e => trivial
  | ok s =>
    rw [ha] at h
    cases h

theorem Call.idle_plan {c : Call} (hc : c.lifecycle? = none) (limits : Limits) :
    (c.plan limits).Asks Ask.Idle := by
  cases c with
  | describe id secret => exact idle_judged_during (idle_describe id secret) _ _
  | _ => exact idle_judged_gated hc

theorem measures_of_idle {p : Plan α} (hp : p.Asks Ask.Idle) (b : Backend σ)
    (cancelAt : Option Nat) (w : World σ) :
    (b.run cancelAt p w).state.measures = w.measures := by
  have hstart : World.Agree (fun (x : σ × List Served) s => x.1 = s)
      ⟨w.now, (w.state, []), w.contacts, w.measures⟩ w := ⟨rfl, rfl, rfl, rfl⟩
  rw [← (b.run_recording_agree cancelAt hstart p).state.measures]
  refine (hp.leads _).keeps
    (I := fun v : World (σ × List Served) => v.measures = w.measures) (fun q v hq hv => ?_) rfl
  obtain hn | ⟨r, -, hn⟩ := b.noted_handler cancelAt hq.counts_not v
  · exact hn.measures.trans hv
  · exact hn.measures.trans hv

/-! ### One call -/

theorem run_judged_during (b : Backend σ) (cancelAt : Option Nat) (activity : String)
    (q : Plan (Except MachineError α)) (f : α → β) (w : World σ) :
    (b.run cancelAt (judged (during activity q f)) w).state = (b.run cancelAt q w).state ∧
      (b.run cancelAt (judged (during activity q f)) w).result? =
        (b.run cancelAt q w).result?.map failure? := by
  unfold judged during Backend.run
  rw [bind_assoc]
  cases hrun : q.run (b.handler cancelAt) w with
  | stuck w₁ =>
    rw [run_bind_of_stuck _ hrun]
    exact ⟨rfl, rfl⟩
  | answered r w₁ =>
    rw [run_bind_of_answered _ hrun]
    cases r <;> exact ⟨rfl, rfl⟩

/-- A call behind the gate is counted with its failure, and one that does not get there is not. -/
theorem reconciled_gated {op : LifecycleCall} {activity : String} {spec : List UInt8}
    {secret : Secret} {p : ProviderSpec → Plan (Except MachineError α)} {f : α → β}
    (hp : ∀ s, Accounted b cancelAt op (p s)) (h : Reconciled 0 0 ended w) :
    Reconciled 0 0
      (((Call.behindGate op spec secret).bind fun op =>
          (b.recording.run cancelAt (judged (gated activity spec secret p f)) w).result?.map
            fun failure => (op, failure)).toList ++ ended)
      (b.recording.run cancelAt (judged (gated activity spec secret p f)) w).state := by
  unfold Call.behindGate gated
  cases Admission.accept spec secret with
  | error e => exact h
  | ok s =>
    obtain ⟨hstate, hresult⟩ := run_judged_during b.recording cancelAt activity (p s) f w
    have hafter := hp s h
    dsimp only
    rw [hstate, hresult]
    show Reconciled 0 0 (Option.toList (Option.map (fun failure => (op, failure))
      (((b.recording.run cancelAt (p s) w).result?).map failure?)) ++ ended) _
    rw [Option.map_map]
    exact hafter

/-- **A call is counted if it is a lifecycle call that has ended**, and nothing is left open. -/
theorem Call.reconciled (b : Backend σ) (cancelAt : Option Nat) (limits : Limits) (c : Call)
    (h : Reconciled 0 0 ended w) :
    Reconciled 0 0
      ((ending? (c, (b.recording.run cancelAt (c.plan limits) w).result?)).toList ++ ended)
      (b.recording.run cancelAt (c.plan limits) w).state := by
  cases c with
  | create name spec secret =>
    exact reconciled_gated (fun s => accounted_create b cancelAt limits name s secret) h
  | delete name spec secret =>
    exact reconciled_gated (fun s => accounted_delete b cancelAt limits name s secret) h
  | status name spec secret =>
    exact reconciled_gated (fun s => accounted_status b cancelAt limits name s secret) h
  | list spec secret =>
    exact reconciled_gated (fun s => accounted_list b cancelAt limits s secret) h
  | describe id secret => exact Settles.of_idle (Call.idle_plan rfl limits) h

/-! ### All calls -/

/-- **A sequence of calls is counted end by end**, and nothing is left open. -/
theorem reconciled_history (b : Backend σ) (limits : Limits) :
    ∀ (cs : List (Call × Option Nat)) {ended : List Ending} {w : World (σ × List Served)},
      Reconciled 0 0 ended w →
        Reconciled 0 0 (((history b.recording limits cs w).1.filterMap ending?).reverse ++ ended)
          (history b.recording limits cs w).2
  | [], _, _, h => h
  | (c, cancelAt) :: cs, ended, w, h => by
    have hrest := reconciled_history b limits cs (c.reconciled b cancelAt limits h)
    simp only [history]
    rw [List.filterMap_cons]
    cases he : ending? (c, (b.recording.run cancelAt (c.plan limits) w).result?) with
    | none =>
      rw [he] at hrest
      exact hrest
    | some e =>
      rw [he] at hrest
      simpa using hrest

theorem count_ending (es : List (Call × Option (Option ErrorCode))) (e : Ending) :
    (es.filterMap ending?).count e = es.countP fun c => ending? c = some e := by
  rw [List.count, List.countP_filterMap]
  refine List.countP_congr fun c _ => ?_
  cases ending? c <;> simp

/-- **The counters agree with what has happened**, for every sequence of calls of the driver,
whatever the service answers or fails to answer, and whenever the calls are cancelled. The counter
of a lifecycle call and an outcome shows how many of these calls ended so, if they got through the
gate; other calls count nothing. The counter of looks shows how many looks were made, answered or
not. The counter of waits shows how many changes were accepted. What was accepted is told by a
record, which is that of the calls that were made, and with which the calls come to the same. -/
theorem counters_reconcile (b : Backend σ) (limits : Limits) (cs : List (Call × Option Nat))
    (s : σ) :
    (∀ op failure, (history b limits cs (.start s)).2.reading (Measure.finished op failure).text =
      (history b limits cs (.start s)).1.countP fun e => ending? e = some (op, failure)) ∧
    (∀ c : Call, c.lifecycle? = none → ∀ cancelAt w,
      (b.run cancelAt (c.plan limits) w).state.measures = w.measures) ∧
    (history b limits cs (.start s)).2.reading Measure.poll.text =
      (history b limits cs (.start s)).2.calls.countP (fun e => e.2.isLook) ∧
    ∃ record : List Served,
      (history b.recording limits cs (.start (s, []))).1 = (history b limits cs (.start s)).1 ∧
      (history b.recording limits cs (.start (s, []))).2.state =
        ((history b limits cs (.start s)).2.state, record.reverse) ∧
      record.map Served.request = (history b limits cs (.start s)).2.calls.map Prod.snd ∧
      (history b limits cs (.start s)).2.reading Measure.operationWait.text =
        record.countP Served.isAccepted := by
  have hstart : World.Agree (fun (x : σ × List Served) s => x.1 = s) (.start (s, [])) (.start s) :=
    ⟨rfl, rfl, rfl, rfl⟩
  obtain ⟨hresults, hworld⟩ := history_recording b limits cs hstart
  have hbooks := reconciled_history b limits cs (Reconciled.start s)
  have hcalls : (history b limits cs (.start s)).2.calls =
      (history b.recording limits cs (.start (s, []))).2.calls := by
    unfold World.calls
    rw [hworld.contacts]
  have hrecord : (history b.recording limits cs (.start (s, []))).2.state.2.reverse.map
      Served.request = (history b limits cs (.start s)).2.calls.map Prod.snd := by
    rw [List.map_reverse, hbooks.asked, hcalls, World.map_snd_calls]
  refine ⟨fun op failure => ?_, fun c hc cancelAt w => measures_of_idle (c.idle_plan hc limits) b
    cancelAt w, ?_, _, hresults, ?_, hrecord, ?_⟩
  · rw [World.reading_text _ (m := .finished op failure) (fun _ _ => nofun), ← hworld.measures,
      Measure.count_finished _ (op, failure), hbooks.ended, List.append_nil, List.count_reverse,
      count_ending, hresults]
  · have hlooks := congrArg (List.countP Request.isLook) hrecord
    rw [List.countP_map, List.countP_map, List.countP_reverse] at hlooks
    rw [World.reading_text _ (m := .poll) (fun _ _ => nofun), ← hworld.measures, hbooks.polls]
    exact hlooks
  · rw [List.reverse_reverse, ← hworld.state]
  · rw [World.reading_text _ (m := .operationWait) (fun _ _ => nofun), ← hworld.measures,
      List.countP_reverse]
    exact hbooks.waits

/-- The creation of a machine whose specification cannot be read counts nothing. -/
theorem counters_reconcile_unreadable :
    (Call.create "a" [] .empty).lifecycle? = none ∧
      ((InMemory.backend none).run none ((Call.create "a" [] .empty).plan ⟨.standard, 4⟩)
        (.start (InMemory.new 1 0))).state.measures = [] := by
  have hc : (Call.create "a" [] .empty).lifecycle? = none := by decide +kernel
  obtain ⟨-, hnothing, -⟩ := counters_reconcile (InMemory.backend none) ⟨.standard, 4⟩ []
    (InMemory.new 1 0)
  exact ⟨hc, hnothing _ hc none _⟩

end Driver

end GceMachines
