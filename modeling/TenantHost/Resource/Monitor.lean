import TenantHost.Resource.Metric
import TenantHost.Journal.Handling
/-!
# The resource monitor

Readings of a host rounded to hundredths, and the decision whether it can take on work. A reading
that cannot be had is -1, so that it stays apart from a real zero. Every call reads afresh.
-/

namespace TenantHost

/-- The readings of a host, taken one after the other. -/
structure Snapshot where
  memoryUsage : Double
  availableMemory : Double
  totalMemory : Double
  loadAverage : Double
  cpuUsage : Double
  deriving DecidableEq

namespace Monitor

variable {σ : Type}

/-- What stands for a reading that cannot be had. -/
def unavailable : Double := Double.minusOne

/-- The bytes of a gigabyte. -/
def gigabyte : Number := .int (twoTo 30)

/-! ## Figures -/

/-- A figure rounded to hundredths, unless it has too many digits. -/
def rounded (value : Number) : Except Fault Double :=
  match value.roundHundredths? with
  | some d => .ok d
  | none => .error .roundingRefused

/-- Whether a figure is finite, unless it is too large to ask. -/
def finite (value : Number) : Except Fault Bool :=
  match value.isFinite with
  | .ok answer => .ok answer
  | .error limit => .error (.overflow limit)

/-- Whether a load is finite and not negative. -/
def isLoad (value : Number) : Except Fault Bool := do
  return (← finite value) && Number.atMost (.int 0) value

/-- A finite figure rounded to hundredths; NaN and infinities are no figures. -/
def figure (value : Number) : Except Fault Double := do
  if ← finite value then rounded value else return unavailable

/-- A quotient of two figures. -/
def quotient (a b : Number) : Except Fault Number :=
  match a.div b with
  | .ok d => .ok (.real d)
  | .error limit => .error (.overflow limit)

/-- A difference of two figures. -/
def difference (a b : Number) : Except Fault Number :=
  match a.sub b with
  | .ok d => .ok d
  | .error limit => .error (.overflow limit)

/-- The part of the total memory that is not available. -/
def usedPart (total available : Number) : Except Fault Double := do
  figure (← quotient (← difference total available) total)

/-- A number of bytes in gigabytes. -/
def inGigabytes (bytes : Number) : Except Fault Double := do
  figure (← quotient bytes gigabyte)

/-! ## Readings -/

/-- Writes a line about readings. -/
def note (level : Level) (text : String) : MonitorAction σ Unit :=
  (World.note .resources level text).onSecond

@[simp] theorem note_apply (level : Level) (text : String) (s : Bool × World σ) :
    note level text s = (.ok (),
      (s.1, { s.2 with journal := s.2.journal ++ [⟨.resources, level, text, none⟩] })) :=
  rfl

/-- The text of a number, unless it has too many digits to be shown. -/
def shown (a : Number) : Except Fault String :=
  if a.isShowable then .ok a.text else .error (.tooManyDigits none)

@[simp] theorem shown_real (d : Double) : shown (.real d) = .ok (Number.real d).text :=
  rfl

/-- Goes on with a reading if it succeeds; if not, says so and answers that it is not available. -/
def orUnavailable {α : Type} (reading : MonitorAction σ α) (activity : String)
    (next : α → MonitorAction σ Double) : MonitorAction σ Double := do
  match ← reading.attempt with
  | .ok value => next value
  | .error fault => do
    (fault.report activity (some .warning) .resources none).onSecond
    return unavailable

/-- The total and the available memory. -/
def readMemory (source : Source σ) : MonitorAction σ (Number × Number) := do
  let total ← source.read .totalMemory
  let available ← source.read .availableMemory
  return (total, available)

/-- The part of the memory that is in use. -/
def memoryUsage (source : Source σ) : MonitorAction σ Double :=
  orUnavailable (readMemory source) "reading memory usage" fun (total, available) => do
    if total.atMost (.int 0) then
      note .warning
        ("Total physical memory reported as " ++ (← Action.ofExcept (shown total)) ++
          " bytes, memory usage unavailable")
      return unavailable
    else Action.ofExcept (usedPart total available)

/-- The available memory in gigabytes. -/
def availableMemory (source : Source σ) : MonitorAction σ Double :=
  orUnavailable (source.read .availableMemory) "reading available memory" fun bytes =>
    Action.ofExcept (inGigabytes bytes)

/-- The total memory in gigabytes. -/
def totalMemory (source : Source σ) : MonitorAction σ Double :=
  orUnavailable (source.read .totalMemory) "reading total memory" fun bytes =>
    Action.ofExcept (inGigabytes bytes)

/-- The load that the system reports, rounded; nothing if that is no load. -/
def systemLoad (source : Source σ) : MonitorAction σ (Option Double) := do
  let load ← source.read .systemLoad
  if ← Action.ofExcept (isLoad load) then
    return some (← Action.ofExcept (rounded load))
  else
    note .warning
      ("OS load average reported as " ++ (← Action.ofExcept (shown load)) ++
        ", trying hardware load average")
    return none

/-- The load that the hardware reports, rounded. -/
def hardwareLoad (source : Source σ) : MonitorAction σ Double :=
  orUnavailable (source.read .hardwareLoad) "reading hardware load average" fun load => do
    if ← Action.ofExcept (isLoad load) then Action.ofExcept (rounded load)
    else return unavailable

/-- The load: that of the system or, if it cannot be had, that of the hardware. -/
def loadAverage (source : Source σ) : MonitorAction σ Double := do
  match ← (systemLoad source).attempt with
  | .ok (some load) => pure load
  | .ok none => hardwareLoad source
  | .error fault => do
    note .warning
      ("Failed to read OS load average (" ++ fault.summary ++ "), trying hardware load average")
    hardwareLoad source

/-- The part of the processors' time that is in use. -/
def cpuUsage (source : Source σ) : MonitorAction σ Double :=
  orUnavailable (source.read .cpuLoad) "reading CPU usage" fun usage =>
    Action.ofExcept (figure usage)

/-- All readings, one after the other. -/
def snapshot (source : Source σ) : MonitorAction σ Snapshot := do
  let memoryUsage ← memoryUsage source
  let availableMemory ← availableMemory source
  let totalMemory ← totalMemory source
  let loadAverage ← loadAverage source
  let cpuUsage ← cpuUsage source
  return ⟨memoryUsage, availableMemory, totalMemory, loadAverage, cpuUsage⟩

/-! ## Admission -/

/-- Whether a load and an amount of available memory leave room for work. -/
def admits (load available : Double) (maxLoad reserved : Number) : Bool :=
  !(maxLoad.less (.real load) || Number.less (.real available) reserved)

/-- Whether the host can take on work; a refusal is written to the journal. -/
def checkResource (source : Source σ) (maxLoad reserved : Number) : MonitorAction σ Bool := do
  let load ← loadAverage source
  let available ← availableMemory source
  if admits load available maxLoad reserved then return true
  else
    note .warning
      ("Current cpu load average " ++ load.text ++ " is too high or available memory " ++
        available.text ++ "G is too low, under max_cpu_load_avg=" ++
        (← Action.ofExcept (shown maxLoad)) ++ " and reserved_memory_gb=" ++
        (← Action.ofExcept (shown reserved)) ++ "G")
    return false

end Monitor

end TenantHost
