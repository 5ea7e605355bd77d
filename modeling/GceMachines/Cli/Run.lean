import GceMachines.Cli.Display
import GceMachines.Cli.Inputs
import GceMachines.Compute.Remote
import GceMachines.Settings

/-!
# Commands

A run of the program reads its command line, then its inputs, and then makes the one call that the
command is about to the service that the environment names. It is cancelled when someone asks to
stop.

* `Report`: what a run leaves behind.
* `run`: a run.
-/

namespace GceMachines.Cli

/-- **What a run leaves behind.** -/
structure Report where
  exit : Nat
  output : String
  errors : String
  /-- What was counted, the latest first. -/
  measures : List Measure
  deriving DecidableEq, Repr

namespace Report

/-- A run that was successful. -/
def success (output : String) : Report := ⟨0, output, "", []⟩

/-- A run that failed. -/
def failure (f : Failure) : Report := ⟨1, "", "Error: " ++ f.text ++ "\n", []⟩

/-- A run that ends with what it was able to show. -/
def ofResult : Except Failure String → Report
  | .ok output => success output
  | .error f => failure f

end Report

/-- The name of the program with its version. -/
def versionText : String := line "gcemcctl 0.0.0"

/-- The commands, for those who ask for help. -/
def helpText : String :=
  line "Usage: gcemcctl [OPTIONS] <COMMAND>" ++
    line ("Commands: " ++ ", ".intercalate (CommandName.all.map CommandName.text))

/-- A run that ends with its command line. -/
def Stop.report : Stop → Report
  | .help => .success helpText
  | .version => .success versionText
  | .misuse => ⟨2, "", helpText, []⟩

/-- How many pages of a listing are walked over. -/
def pageLimit : Nat := Nat.pow 2 32

section

variable {σ : Type}

/-- Runs an errand and goes on with its result. -/
def withErrand {α : Type} (o : Outside σ) (e : Step α) (s : σ)
    (next : α → σ → Program.Outcome σ Report) : Program.Outcome σ Report :=
  match e.run o.handler s with
  | .stuck s => .stuck s
  | .answered (.error f) s => .answered (.failure f) s
  | .answered (.ok a) s => next a s

/-- Runs a plan against the service and shows its result. -/
def withService {α : Type} (o : Outside σ) (settings : Settings)
    (p : Plan (Except DriverError α)) (shown : α → String) (s : σ) : Program.Outcome σ Report :=
  match (Remote.backend o settings.endpoint).run none p (.start (.start s)) with
  | .stuck w => .stuck w.state.outside
  | .answered r w =>
    let report := Report.ofResult ((r.map shown).mapError fun e => .ofMessage e.display)
    .answered { report with measures := w.state.measures ++ w.measures } w.state.outside

/-- Shows which rules inputs break. -/
def validate (style : Style) (spec : List UInt8) (secret : Secret) : Report :=
  match Admission.decodeSpec spec with
  | .error e => .failure (.ofMessage e.message)
  | .ok spec =>
    let vs := Admission.violations spec (some secret)
    { Report.success (violationsText style vs) with exit := if vs.isEmpty then 0 else 1 }

/-- **Runs a command.** -/
def perform (o : Outside σ) (env : String → Option String) (i : Invocation) (s : σ) :
    Program.Outcome σ Report :=
  let settings := Settings.ofEnvironment env
  let limits : Lifecycle.Limits := ⟨settings.poll, pageLimit⟩
  let loaded (inputs : Inputs) (next : List UInt8 → Secret → σ → Program.Outcome σ Report) :
      Program.Outcome σ Report :=
    withErrand o (load env inputs) s fun (spec, secret) => next spec secret
  match i.command with
  | .validate inputs => loaded inputs fun spec secret s =>
    .answered (validate i.style spec secret) s
  | .create name inputs => loaded inputs fun spec secret =>
    withService o settings (Driver.create limits name spec secret)
      (responseText i.style "created")
  | .delete name inputs => loaded inputs fun spec secret =>
    withService o settings (Driver.delete limits name spec secret)
      (responseText i.style "deleted")
  | .status name inputs => loaded inputs fun spec secret =>
    withService o settings (Driver.status limits name spec secret) (statusText i.style)
  | .list inputs => loaded inputs fun spec secret =>
    withService o settings (Driver.list limits spec secret) (listingText i.style)
  | .describe id source =>
    withErrand o (readSecret env source) s fun secret =>
      withService o settings (Driver.describe id secret) (instanceText i.style)

/-- **A run of the program.** -/
def run (o : Outside σ) (env : String → Option String) (args : List String) (s : σ) :
    Program.Outcome σ Report :=
  match Invocation.ofArguments args with
  | .error stop => .answered stop.report s
  | .ok i => perform o env i s

end

end GceMachines.Cli
