import TenantHost.Agent.Basic
import TenantHost.Proofs.Account.Group
import TenantHost.Proofs.Resource.Queries
import TenantHost.Proofs.Settings.Check
/-!
# Admission under accepted thresholds

A check never accepts NaN as a threshold, so every comparison with a threshold decides, and the
answer that nothing is available lies below both of them. Work is therefore refused where the
available memory cannot be read, and where only the load cannot be had the memory alone decides.
-/

namespace TenantHost

/-! ## Thresholds -/

/-- A threshold against which every double but NaN compares. -/
def Double.IsDecisive (threshold : Double) : Prop :=
  ∀ d : Double, d ≠ .nan →
    Number.less (.real threshold) (.real d) = !Number.atMost (.real d) (.real threshold) ∧
      Number.less (.real d) (.real threshold) = !Number.atMost (.real threshold) (.real d)

theorem Double.isDecisive_of_ne_nan {threshold : Double} (h : threshold ≠ .nan) :
    threshold.IsDecisive := by
  intro d hd
  exact ⟨Number.less_eq_not_atMost h hd, Number.less_eq_not_atMost hd h⟩

namespace Monitor

variable {σ : Type}

/-- The answer that nothing is available lies below the least thresholds. -/
theorem unavailable_less :
    Number.less (.real unavailable) (.real Double.zero) = true ∧
      Number.less (.real unavailable) (.real Settings.leastMaxLoad) = true := by
  decide +kernel

/-! ## Memory that cannot be read -/

/-- Whether a reading failed or gave no amount. -/
def isUnreadable : Except Fault Number → Bool
  | .error _ => true
  | .ok bytes => !bytes.isAmount

theorem gigabyte_toDouble : ∃ negative rank, gigabyte.toDouble = .ok (.finite negative rank) := by
  have hlimit : twoTo 30 < Double.conversionLimit :=
    Nat.lt_of_lt_of_le (by decide) Number.tenTo_le_conversionLimit
  have hfinite : (Double.ofInt (twoTo 30)).isFinite = true := by
    rw [Double.isFinite_ofInt, Int.natAbs_natCast]
    exact decide_eq_true hlimit
  have hwithin : gigabyte.toDouble = .ok (Double.ofInt (twoTo 30)) := by
    show Number.within .conversion (Double.ofInt (twoTo 30)) = _
    rw [Number.within, if_pos hfinite]
  cases hform : Double.ofInt (twoTo 30) with
  | nan =>
    rw [hform] at hfinite
    cases hfinite
  | infinity negative =>
    rw [hform] at hfinite
    cases hfinite
  | finite negative rank => exact ⟨negative, rank, hform ▸ hwithin⟩

/-- What is no amount of bytes is no amount of gigabytes. -/
theorem inGigabytes_of_not_isAmount {bytes : Number} (h : bytes.isAmount = false) :
    inGigabytes bytes = .ok unavailable := by
  obtain ⟨negative, rank, hgigabyte⟩ := gigabyte_toDouble
  cases bytes with
  | int n => cases h
  | real d =>
    have hquotient : quotient (.real d) gigabyte = .ok (.real (d.div (.finite negative rank))) := by
      rw [quotient, Number.div_real, hgigabyte]
      rfl
    rw [inGigabytes, hquotient]
    cases d with
    | nan => rfl
    | infinity negative => rfl
    | finite negative rank => cases h

theorem availableMemory_of_isUnreadable {source : Source σ} {s : Bool × World σ}
    (h : isUnreadable (source.read .availableMemory s).1 = true) :
    (availableMemory source s).1 = .ok unavailable := by
  rcases hread : source.read .availableMemory s with ⟨fault | bytes, t⟩
  · exact orUnavailable_error hread _ _
  · rw [availableMemory, orUnavailable_ok hread]
    rw [hread] at h
    exact inGigabytes_of_not_isAmount (by simpa [isUnreadable] using h)

/-! ## The gate -/

/-- What a check of the resources answers by its two readings. -/
theorem checkResource_of_readings {source : Source σ} {maxLoad reserved load available : Double}
    {s t : Bool × World σ} (hload : loadAverage source s = (.ok load, t))
    (havailable : (availableMemory source t).1 = .ok available) :
    (checkResource source (.real maxLoad) (.real reserved) s).1
      = .ok (admits load available (.real maxLoad) (.real reserved)) := by
  obtain ⟨u, hread⟩ : ∃ u, availableMemory source t = (.ok available, u) :=
    ⟨_, Prod.ext havailable rfl⟩
  cases hadmits : admits load available (.real maxLoad) (.real reserved) <;>
    simp [checkResource, hload, hread, hadmits]

end Monitor

namespace Agent

variable {σ : Type}

/-- The gate of an agent is the check of its monitor under the thresholds of its settings. -/
theorem checkConfigured_of_getSettings {host : Host σ} {s s' : Agent × World σ}
    {settings : Settings} (h : getSettings host s = (.ok settings, s')) (source : Source σ) :
    (checkConfigured host source s).1
      = (Monitor.checkResource source (.real settings.thresholds.maxLoad)
          (.real settings.thresholds.reservedMemory) (s'.1.sensorsReady, s'.2)).1 := by
  have hthresholds : thresholds host s
      = (.ok (.real settings.thresholds.maxLoad,
          .real settings.thresholds.reservedMemory), s') := by
    simp [thresholds, h]
  simp [checkConfigured, hthresholds]

/-- **The configured gate is closed where the memory cannot be read, and where only the load is
missing it is decided by the memory alone.** -/
theorem checkConfigured_of_accepted {host : Host σ} {source : Source σ} {value : Value}
    {settings : Settings} {w w' : World σ} {s s' : Agent × World σ} {load : Double}
    {t : Bool × World σ} (haccepted : Settings.check host.cpuCount value w = (.ok settings, w'))
    (hsettings : getSettings host s = (.ok settings, s'))
    (hload : Monitor.loadAverage source (s'.1.sensorsReady, s'.2) = (.ok load, t)) :
    settings.thresholds.maxLoad.IsDecisive ∧ settings.thresholds.reservedMemory.IsDecisive ∧
      (Monitor.isUnreadable (source.read .availableMemory t).1 = true →
        (checkConfigured host source s).1 = .ok false) ∧
      (load = Monitor.unavailable → ∀ available,
        (Monitor.availableMemory source t).1 = .ok available →
        (checkConfigured host source s).1
          = .ok (Number.atMost (.real settings.thresholds.reservedMemory) (.real available))) := by
  obtain ⟨⟨hmaxNan, hmaxLeast⟩, hreservedNan, hreservedLeast⟩ :=
    Settings.of_check_ok haccepted
  refine ⟨Double.isDecisive_of_ne_nan hmaxNan, Double.isDecisive_of_ne_nan hreservedNan, ?_, ?_⟩
  · intro hunreadable
    -- the answer that nothing is available lies below every threshold for the memory
    have hbelow : Number.less (.real Monitor.unavailable)
        (.real settings.thresholds.reservedMemory) = true :=
      Number.less_of_less_of_not_less hreservedNan Monitor.unavailable_less.1 hreservedLeast
    have havailable := Monitor.availableMemory_of_isUnreadable hunreadable
    rw [checkConfigured_of_getSettings hsettings,
      Monitor.checkResource_of_readings hload havailable,
      Monitor.admits, hbelow, Bool.or_true]
    rfl
  · intro hmissing available havailable
    -- and below every threshold for the load, which then never refuses
    have hbelow : Number.less (.real Monitor.unavailable)
        (.real settings.thresholds.maxLoad) = true :=
      Number.less_of_less_of_not_less hmaxNan Monitor.unavailable_less.2 hmaxLeast
    have hnever := Number.less_asymm hbelow
    have hfinite : available.isFinite = true :=
      (Monitor.availableMemory_settles source t).isFinite_of_ok havailable
    have hnan : available ≠ .nan := by
      rintro rfl
      cases hfinite
    rw [checkConfigured_of_getSettings hsettings,
      Monitor.checkResource_of_readings hload havailable,
      Monitor.admits, hmissing, hnever, Bool.false_or, Number.less_eq_not_atMost hnan hreservedNan,
      Bool.not_not]

/-- The thresholds of a table with an infinite load. -/
def looseThresholds (reserved : Double) : List (String × Value) :=
  [("max_cpu_load_avg", .real (.infinity false)), ("reserved_memory_gb", .real reserved)]

/-- A table with no more than these thresholds. -/
def looseTable (reserved : Double) : Value :=
  .table [("resources", .table (looseThresholds reserved))]

/-- The settings of that table. -/
def looseSettings (reserved : Double) : Settings :=
  ⟨⟨.infinity false, reserved⟩, ⟨true, Path.ofText Settings.defaultDatabase⟩⟩

theorem check_looseThresholds (reserved : Double) (hnan : reserved ≠ .nan)
    (hleast : Number.less (.real reserved) (.real Double.zero) = false)
    (cpuCount : Action σ (Option Int)) (w : World σ) :
    Settings.check cpuCount (looseTable reserved) w
      = (.ok (looseSettings reserved), (Settings.check cpuCount (looseTable reserved) w).2) := by
  have hgiven : Settings.givenMaxLoad (cpuCount w.outside).1 (looseThresholds reserved)
      = .ok (.real (.infinity false)) := rfl
  have hmaxLoad : Settings.checkNumber "host.resources.max_cpu_load_avg" (.real (.infinity false))
      (.real Settings.leastMaxLoad) none = .ok (.infinity false) :=
    Settings.checkNumber_real (by decide) (Number.less_infinity _)
  have hreserved : Settings.checkNumber "host.resources.reserved_memory_gb" (.real reserved)
      (.real Double.zero) none = .ok reserved :=
    Settings.checkNumber_real hnan hleast
  have hresources : Settings.valueOf [("resources", .table (looseThresholds reserved))] "resources"
      (.table []) = .table (looseThresholds reserved) := rfl
  have houtcome : (Settings.check cpuCount (looseTable reserved) w).1
      = .ok (looseSettings reserved) := by
    rw [Settings.check_outcome, looseTable, Settings.ofTable_table, hresources,
      Settings.thresholdsOf_table hgiven hmaxLoad hreserved]
    rfl
  rw [← houtcome]

/-- A source whose loads cannot be read or are no loads, with a reading of the memory. -/
def loadless (memory : Action Unit Number) : Source Unit :=
  .given fun metric =>
    match metric with
    | .hardwareLoad => pure .nan
    | .availableMemory => memory
    | _ => .fail .noLoadAverage

/-- An agent that knows these settings. -/
def loose (reserved : Double) : Agent :=
  { fresh (Path.ofText "config.toml") with settings := some (looseSettings reserved) }

/-- The gate of such an agent before such a source. -/
def looseGate (reserved : Double) (memory : Action Unit Number) : Except Fault Bool :=
  (checkConfigured (.ofUser "builder") (loadless memory) (loose reserved, World.start ())).1

theorem getSettings_loose (reserved : Double) :
    getSettings (.ofUser "builder") (loose reserved, World.start ())
      = (.ok (looseSettings reserved), (loose reserved, World.start ())) :=
  rfl

/-- What finding out the load of such a source leaves behind. -/
def loadlessState (memory : Action Unit Number) : Bool × World Unit :=
  (Monitor.loadAverage (loadless memory) (false, World.start ())).2

theorem loadAverage_loadless (memory : Action Unit Number) :
    Monitor.loadAverage (loadless memory) (false, World.start ())
      = (.ok Monitor.unavailable, loadlessState memory) :=
  Prod.ext rfl rfl

theorem availableMemory_loadless {bytes : Int} {available : Double}
    (h : (Monitor.inGigabytes (.int bytes)).toOption = some available) (s : Bool × World Unit) :
    (Monitor.availableMemory (loadless (pure (.int bytes))) s).1 = .ok available := by
  have hread : (loadless (pure (.int bytes))).read .availableMemory s = (.ok (.int bytes), s) := rfl
  rw [Monitor.availableMemory, Monitor.orUnavailable_ok hread]
  cases hgigabytes : Monitor.inGigabytes (.int bytes) with
  | error fault =>
    rw [hgigabytes] at h
    cases h
  | ok d =>
    rw [hgigabytes] at h
    exact congrArg Except.ok (Option.some.inj h)

/-- Without a load, the gate is closed without a reading of the memory, however loose the thresholds
are; and where four gigabytes are reserved, eight gibibytes open it and two do not. -/
theorem checkConfigured_of_loadless :
    looseGate (.signedZero true) (.fail .noLoadAverage) = .ok false ∧
      looseGate (.ofRatio false 4 1) (pure (.int 8589934592)) = .ok true ∧
      looseGate (.ofRatio false 4 1) (pure (.int 2147483648)) = .ok false := by
  have hfour : Double.ofRatio false 4 1 ≠ .nan := by decide +kernel
  have hpositive : Number.less (.real (.ofRatio false 4 1)) (.real Double.zero) = false := by
    decide +kernel
  have height : (Monitor.inGigabytes (.int 8589934592)).toOption = some (.ofRatio false 8 1) := by
    decide +kernel
  have htwo : (Monitor.inGigabytes (.int 2147483648)).toOption = some (.ofRatio false 2 1) := by
    decide +kernel
  have hloose := check_looseThresholds (.signedZero true) (by decide) (by decide)
    (Host.ofUser (σ := Unit) "builder").cpuCount (World.start ())
  have hreserving := check_looseThresholds _ hfour hpositive
    (Host.ofUser (σ := Unit) "builder").cpuCount (World.start ())
  obtain ⟨-, -, hclosed, -⟩ := checkConfigured_of_accepted hloose (getSettings_loose _)
    (loadAverage_loadless (.fail .noLoadAverage))
  obtain ⟨-, -, -, hmany⟩ := checkConfigured_of_accepted hreserving (getSettings_loose _)
    (loadAverage_loadless (pure (.int 8589934592)))
  obtain ⟨-, -, -, hfew⟩ := checkConfigured_of_accepted hreserving (getSettings_loose _)
    (loadAverage_loadless (pure (.int 2147483648)))
  refine ⟨hclosed rfl, ?_, ?_⟩
  · rw [looseGate, hmany rfl _ (availableMemory_loadless height _)]
    exact congrArg Except.ok (by decide +kernel)
  · rw [looseGate, hfew rfl _ (availableMemory_loadless htwo _)]
    exact congrArg Except.ok (by decide +kernel)

end Agent

end TenantHost
