import TenantHost.Journal.Basic
import TenantHost.Number
/-!
# Metrics

The five figures of a host that can be read, and where readings come from: a given source, or the
sensors of the system. The sensors are got ready before the first reading, which may fail and is
then tried again before the next one. A sensor for which the system has none gives NaN, and so does
one that fails in an expected way.
-/

namespace TenantHost

/-- A figure of a host that can be read. -/
inductive Metric where
  | totalMemory
  | availableMemory
  | systemLoad
  | hardwareLoad
  | cpuLoad
  deriving DecidableEq, Repr

/-- The sensors of a system. The load that the system itself reports may be missing. -/
structure Sensors (σ : Type) where
  totalMemory : Action σ Number
  availableMemory : Action σ Number
  cpuPercent : Action σ Number
  hardwareLoad : Action σ Number
  systemLoad : Action σ (Option (Action σ Number))

/-- Where readings come from. -/
inductive Source (σ : Type) where
  | given (read : Metric → Action σ Number)
  | system (sensors : Sensors σ)

/-- An action of a monitor. Its own state is whether the sensors are ready. -/
abbrev MonitorAction (σ α : Type) : Type :=
  Action (Bool × World σ) α

namespace Number

/-- The number that is none. -/
def nan : Number := .real .nan

/-- The quotient of two numbers as an action. -/
def divide {S : Type} (a b : Number) : Action S Number :=
  match a.div b with
  | .ok d => pure (.real d)
  | .error limit => .fail (.overflow limit)

end Number

namespace Sensors

variable {σ : Type}

/-- NaN in place of a reading that failed in an expected way, with a line about it. -/
def orNaN (reading : Action (World σ) Number) (what : String) (expected : List Family) :
    Action (World σ) Number := do
  match ← reading.attempt with
  | .ok value => pure value
  | .error fault =>
    if fault.family ∈ expected then do
      World.note .resources .debug ("psutil " ++ what ++ " unavailable: " ++ fault.summary)
      pure .nan
    else Action.fail fault

/-- Reads a metric off the sensors. -/
def read (sensors : Sensors σ) : Metric → Action (World σ) Number
  | .totalMemory => World.ask sensors.totalMemory
  | .availableMemory => World.ask sensors.availableMemory
  | .systemLoad => do
    match ← World.ask sensors.systemLoad with
    | none => Action.fail .noLoadAverage
    | some reading => World.ask reading
  | .hardwareLoad =>
    orNaN (World.ask sensors.hardwareLoad) "load average" [.system, .absent, .sensor]
  | .cpuLoad =>
    orNaN (do (← World.ask sensors.cpuPercent).divide (.real (Double.ofNat 100))) "CPU load"
      [.system, .sensor]

/-- Gets the sensors ready: the first percentage has nothing to compare with and is dropped. -/
def ready (sensors : Sensors σ) : MonitorAction σ Unit := do
  if (← Action.state).1 then pure ()
  else
    let _ ← (World.ask sensors.cpuPercent).onSecond
    Action.update fun s => (true, s.2)

end Sensors

/-- Reads a metric. -/
def Source.read {σ : Type} (source : Source σ) (metric : Metric) : MonitorAction σ Number :=
  match source with
  | .given read => (World.ask (read metric)).onSecond
  | .system sensors => do
    sensors.ready
    (sensors.read metric).onSecond

end TenantHost
