import GceMachines.Cli.Run
import GceMachines.Proofs.Driver
import GceMachines.Proofs.Lifecycle.Failures
import GceMachines.Proofs.Spec.Admission

/-!
# The gate

The orchestrator is told of an invalid argument exactly if a text or a secret is refused, or an id
cannot be read. This is found before anything else is done, so nothing has happened then; and
whatever fails behind the gate is told with another code. The commands of the program load what
they hand to the gate in the same way, and so a dry run tells what they would be told.

* `refusal`: what is told of inputs that do not pass.
* `Guards`: a call of the driver that is guarded by the gate.
* `guards_gated`, `guards_describe`: the calls of the driver.
* `gate_exact`: the gate of all calls, of the dry run and of the program.
-/

namespace GceMachines

open Admission (Refused complaints)

namespace Driver

variable {σ α β : Type} {b : Backend σ} {cancelAt : Option Nat} {w : World σ} {activity : String}
  {text : List UInt8} {secret : Secret} {f : α → β}

/-- **What is told of inputs that do not pass**: everything that is said against them. -/
def refusal (activity : String) (text : List UInt8) (secret : Secret) : DriverError :=
  ⟨.invalidArgument, activity ++ " failed: invalid provider spec: " ++
    "; ".intercalate (complaints text secret)⟩

/-- What is told of an id that cannot be read. -/
def unreadable (id : String) : DriverError :=
  ⟨.invalidArgument, "Describe machine " ++ Text.quoted id ++
    " failed: invalid format of machine id: " ++ id⟩

theorem ofCause_invalidSpec (activity : String) (vs : List String) :
    DriverError.ofCause activity (.invalidSpec vs) = ⟨.invalidArgument,
      activity ++ " failed: invalid provider spec: " ++ "; ".intercalate vs⟩ := by
  have hwords : " failed: invalid provider spec: " = " failed: " ++ "invalid provider spec: " := by
    decide
  rw [hwords, ← String.append_assoc, String.append_assoc]
  rfl

theorem ofCause_malformed (activity id : String) :
    DriverError.ofCause activity (.malformedIdentifier id) = ⟨.invalidArgument,
      activity ++ " failed: invalid format of machine id: " ++ id⟩ := by
  have hwords : " failed: invalid format of machine id: " =
      " failed: " ++ "invalid format of machine id: " := by
    decide
  rw [hwords, ← String.append_assoc, String.append_assoc]
  rfl

/-- **A call that is guarded**: it is told to be an invalid argument exactly if it is refused, and
then nothing has happened. -/
structure Guards (b : Backend σ) (cancelAt : Option Nat) (w : World σ)
    (p : Plan (Except DriverError β)) (refused : Prop) (told : DriverError) : Prop where
  invalid_iff : (∃ e w', b.run cancelAt p w = .answered (.error e) w' ∧ e.code = .invalidArgument) ↔
    refused
  untouched : refused → b.run cancelAt p w = .answered (.error told) w

/-- **No failure behind the gate** is one of the gate. -/
theorem changing_admitted : Lifecycle.Changing fun e => e.code ≠ .invalidArgument where
  service e := by cases e <;> nofun
  credentials _ := nofun
  cancelled _ := nofun
  exhausted _ := nofun
  remote _ := nofun
  timeout _ _ := nofun

theorem code_of_told {r : Except MachineError α} {e : DriverError}
    (h : .error e = told activity f r) : ∃ e', r = .error e' ∧ e.code = e'.code := by
  cases r with
  | ok a => cases h
  | error e' =>
    cases h
    exact ⟨e', rfl, rfl⟩

/-- **A call behind the gate** is guarded, if no failure there is one of the gate. -/
theorem guards_gated {p : ProviderSpec → Plan (Except MachineError α)}
    (hp : ∀ spec, (p spec).Fails fun e => e.code ≠ .invalidArgument) :
    Guards b cancelAt w (gated activity text secret p f) (Refused text secret)
      (refusal activity text secret) := by
  have huntouched (h : Refused text secret) :
      b.run cancelAt (gated activity text secret p f) w =
        .answered (.error (refusal activity text secret)) w :=
    run_gated_iff.mpr
      (.inl ⟨_, Admission.accept_of_refused h, by rw [ofCause_invalidSpec]; rfl, rfl⟩)
  refine ⟨⟨?_, fun h => ⟨_, w, huntouched h, rfl⟩⟩, huntouched⟩
  rintro ⟨e, w', hrun, hcode⟩
  rcases run_gated_iff.mp hrun with ⟨e', he', -, -⟩ | ⟨spec, r, -, hr, htold⟩
  · exact (Admission.accept_eq_error_iff.mp he').1
  · obtain ⟨e', rfl, hsame⟩ := code_of_told htold
    exact absurd (hsame.symm.trans hcode) ((hp spec).of_run hr)

/-- **A description** is guarded by the reading of its id. -/
theorem guards_describe (id : String) :
    Guards b cancelAt w (describe id secret) (MachineId.parse? id = none) (unreadable id) := by
  have huntouched (h : MachineId.parse? id = none) :
      b.run cancelAt (describe id secret) w = .answered (.error (unreadable id)) w := by
    refine run_during_iff.mpr ⟨.error (.malformedIdentifier id), ?_, ?_⟩
    · unfold Lifecycle.describe
      rw [h]
      rfl
    · rw [unreadable, ← ofCause_malformed]
      rfl
  refine ⟨⟨?_, fun h => ⟨_, w, huntouched h, rfl⟩⟩, huntouched⟩
  rintro ⟨e, w', hrun, hcode⟩
  obtain ⟨r, hr, htold⟩ := run_during_iff.mp hrun
  obtain ⟨e', rfl, hsame⟩ := code_of_told htold
  refine Option.eq_none_iff_forall_ne_some.mpr fun m hm => ?_
  have hother : (Lifecycle.describe id secret).Fails fun e => e.code ≠ .invalidArgument :=
    Lifecycle.describe_fails changing_admitted.toPlain (fun _ _ => nofun) fun h => by
      rw [h] at hm
      cases hm
  exact hother.of_run hr (hsame.symm.trans hcode)

theorem validate_iff_not_refused :
    (∃ spec, validate text secret = .ok spec) ↔ ¬ Refused text secret := by
  unfold validate
  constructor
  · rintro ⟨spec, h⟩ hr
    rw [Admission.accept_of_refused hr] at h
    cases h
  · intro h
    obtain ⟨spec, hs⟩ := Admission.accept_of_not_refused h
    exact ⟨spec, by rw [hs]; rfl⟩

theorem validate_of_refused (h : Refused text secret) :
    validate text secret = .error (refusal "Validate provider spec" text secret) := by
  unfold validate
  rw [Admission.accept_of_refused h, refusal, ← ofCause_invalidSpec]
  rfl

end Driver

/-! ### The program -/

namespace Cli

variable {σ α : Type} {o : Outside σ} {env : String → Option String} {inputs : Inputs}
  {style : Style} {text : List UInt8} {secret : Secret} {s s' : σ}

/-- **A command that hands its inputs to a call of the driver**, as it has loaded them. -/
def HandsTo (o : Outside σ) (env : String → Option String) (style : Style) (c : Command)
    (s s' : σ) (p : Lifecycle.Limits → Plan (Except DriverError α)) : Prop :=
  let settings := Settings.ofEnvironment env
  ∃ shown, perform o env ⟨style, c⟩ s =
    withService o settings (p ⟨settings.poll, pageLimit⟩) shown s'

theorem withErrand_of_ok {e : Step α} {a : α} (h : e.run o.handler s = .answered (.ok a) s')
    (next : α → σ → Program.Outcome σ Report) : withErrand o e s next = next a s' := by
  unfold withErrand
  rw [h]

/-- A dry run shows no violation and ends well exactly if its inputs pass the gate. -/
theorem validate_iff_not_refused : (validate style text secret).exit = 0 ∧
    (validate style text secret).output = violationsText style [] ↔ ¬ Refused text secret := by
  rw [Admission.refused_iff, Classical.not_not]
  unfold validate complaints Admission.decodeSpec
  cases ProviderSpec.format.decode text with
  | error f =>
    refine iff_of_false (fun h => ?_) nofun
    cases h.1
  | ok spec =>
    dsimp only
    cases Admission.violations spec (some secret) with
    | nil => exact iff_of_true ⟨rfl, rfl⟩ rfl
    | cons v vs =>
      refine iff_of_false (fun h => ?_) nofun
      cases h.1

end Cli

open Driver in
/-- **The gate is exact and comes first.** Creating, deleting, finding and listing are told to be
invalid arguments exactly if the text and the secret are refused, and describing exactly if its id
cannot be read; then nothing was asked of anyone, and all that is said against the inputs is told in
its order. The gate alone and the dry run of the program refuse the same inputs, and the commands of
the program hand to the driver what the dry run loads. -/
theorem gate_exact {σ : Type} (b : Backend σ) (cancelAt : Option Nat) (limits : Lifecycle.Limits)
    (name id : String) (text : List UInt8) (secret : Secret) (w : World σ) :
    Guards b cancelAt w (create limits name text secret) (Refused text secret)
      (refusal ("Create machine " ++ Text.quoted name) text secret) ∧
    Guards b cancelAt w (delete limits name text secret) (Refused text secret)
      (refusal ("Delete machine " ++ Text.quoted name) text secret) ∧
    Guards b cancelAt w (status limits name text secret) (Refused text secret)
      (refusal ("Get status of machine " ++ Text.quoted name) text secret) ∧
    Guards b cancelAt w (list limits text secret) (Refused text secret)
      (refusal "List machines" text secret) ∧
    Guards b cancelAt w (describe id secret) (∃ e, MachineId.partsOf id = .error e)
      (unreadable id) ∧
    ((∃ spec, validate text secret = .ok spec) ↔ ¬ Refused text secret) ∧
    (Refused text secret →
      validate text secret = .error (refusal "Validate provider spec" text secret)) ∧
    ∀ {τ : Type} (o : Outside τ) env style inputs s s',
      (Cli.load env inputs).run o.handler s = .answered (.ok (text, secret)) s' →
      (∃ r, Cli.perform o env ⟨style, .validate inputs⟩ s = .answered r s' ∧
        (r.exit = 0 ∧ r.output = Cli.violationsText style [] ↔ ¬ Refused text secret)) ∧
      Cli.HandsTo o env style (.create name inputs) s s' (create · name text secret) ∧
      Cli.HandsTo o env style (.delete name inputs) s s' (delete · name text secret) ∧
      Cli.HandsTo o env style (.status name inputs) s s' (status · name text secret) ∧
      Cli.HandsTo o env style (.list inputs) s s' (list · text secret) := by
  have hid : (∃ e, MachineId.partsOf id = .error e) ↔ MachineId.parse? id = none := by
    unfold MachineId.partsOf
    cases MachineId.parse? id <;> simp
  refine ⟨guards_gated fun _ => Lifecycle.create_fails changing_admitted,
    guards_gated fun _ => Lifecycle.delete_fails changing_admitted nofun,
    guards_gated fun _ => Lifecycle.status_fails changing_admitted.toPlain nofun,
    guards_gated fun _ => Lifecycle.list_fails changing_admitted.toPlain,
    ⟨(guards_describe id).invalid_iff.trans hid.symm,
      fun h => (guards_describe id).untouched (hid.mp h)⟩,
    validate_iff_not_refused, validate_of_refused, ?_⟩
  intro τ o env style inputs s s' hload
  have hnext := Cli.withErrand_of_ok hload
  exact ⟨⟨_, hnext _, Cli.validate_iff_not_refused⟩, ⟨_, hnext _⟩, ⟨_, hnext _⟩, ⟨_, hnext _⟩,
    ⟨_, hnext _⟩⟩

end GceMachines
