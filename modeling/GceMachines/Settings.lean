import GceMachines.Text.Integer

/-!
# Settings

How often and how long an operation is waited for, where the service is, and how long one answer
may take. Each comes from an environment variable; one that is missing, zero or no number leaves
its default.

* `PollConfig`: the rhythm of waiting.
* `Settings.ofEnvironment`: all settings.
-/

namespace GceMachines

/-- **The rhythm of waiting** for an operation, in milliseconds. -/
structure PollConfig where
  intervalMs : Nat
  timeoutMs : Nat
  interval_pos : 0 < intervalMs
  deriving DecidableEq

namespace PollConfig

/-- A look every five seconds, for five minutes at most. -/
def standard : PollConfig := ⟨5000, 300000, by decide⟩

end PollConfig

/-- The settings of a run. -/
structure Settings where
  poll : PollConfig
  /-- The address that the paths of the service are put behind. -/
  endpoint : String
  httpTimeoutSecs : Nat

namespace Settings

/-- The public address of the service. -/
def defaultEndpoint : String := "https://compute.googleapis.com/compute/v1"

/-- A whole number of seconds above zero. -/
def seconds? (text : Option String) : Option { n : Nat // 0 < n } := do
  let n ← Text.readNat? (Nat.pow 2 64) (← text)
  if h : 0 < n then some ⟨n, h⟩ else none

/-- The rhythm of waiting that the environment asks for. -/
def pollOf (env : String → Option String) : PollConfig :=
  let interval : { n : Nat // 0 < n } :=
    (seconds? (env "GCEMC_POLL_INTERVAL_SECS")).getD ⟨5, by decide⟩
  let timeout : { n : Nat // 0 < n } :=
    (seconds? (env "GCEMC_POLL_TIMEOUT_SECS")).getD ⟨300, by decide⟩
  ⟨interval.val * 1000, timeout.val * 1000, Nat.mul_pos interval.property (by decide)⟩

/-- **The settings that the environment asks for.** -/
def ofEnvironment (env : String → Option String) : Settings where
  poll := pollOf env
  endpoint := match env "GCEMC_COMPUTE_ENDPOINT" with
    | none => defaultEndpoint
    | some e => if e.isEmpty then defaultEndpoint else e
  httpTimeoutSecs := match seconds? (env "GCEMC_HTTP_TIMEOUT_SECS") with
    | none => 30
    | some n => n.val

end Settings

end GceMachines
