import TenantHost.Settings.Check
import TenantHost.Proofs.Number.Order
import TenantHost.Proofs.Number.Size
/-!
# What a check accepts and how it refuses

The outcome of a check depends on the raw table and on the number of processors alone. A number that
is accepted is not NaN and not below its bound. A value that is refused is named with its field,
unless it escapes the check: an integer that is no double, and a value that has to be shown and
cannot be.
-/

namespace TenantHost

/-! ## Outcomes -/

namespace Settings

variable {σ : Type}

/-- The threshold for the load as it is given, or the default for an answer about the processors. -/
def givenMaxLoad (count : Except Fault (Option Int)) (entries : List (String × Value)) :
    Except Fault Value :=
  match valueOf entries "max_cpu_load_avg" .null with
  | .null => do return .real (← defaultMaxLoad (← count))
  | value => .ok value

/-- The thresholds in a raw table, for an answer about the processors. -/
def thresholdsOf (count : Except Fault (Option Int)) (value : Value) : Except Fault Thresholds := do
  let entries ← checkTable "host.resources" value
  let given ← givenMaxLoad count entries
  let maxLoad ← checkNumber "host.resources.max_cpu_load_avg" given (.real leastMaxLoad) none
  let reserved := valueOf entries "reserved_memory_gb" (.real defaultReservedMemory)
  let reservedMemory ←
    checkNumber "host.resources.reserved_memory_gb" reserved (.real Double.zero) none
  return ⟨maxLoad, reservedMemory⟩

/-- The settings in a raw table, for an answer about the processors. -/
def ofTable (count : Except Fault (Option Int)) (value : Value) : Except Fault Settings := do
  let resources ← tableOf value "resources"
  let thresholds ← thresholdsOf count resources
  let accounts ← tableOf value "accounts" >>= checkAccounts
  return ⟨thresholds, accounts⟩

/-- A default that is computed first and written to the journal. -/
theorem notedDefault_outcome (computed : Except Fault Double)
    (text : Double → String) (w : World σ) :
    ((do
        let default ← Action.ofExcept computed
        World.note .validators .debug (text default)
        return .real default : Action (World σ) Value) w).1
      = (do return .real (← computed) : Except Fault Value) := by
  cases computed with
  | error fault => rfl
  | ok default => rfl

theorem maxLoadValue_outcome (cpuCount : Action σ (Option Int)) (entries : List (String × Value))
    (w : World σ) :
    (maxLoadValue cpuCount entries w).1 = givenMaxLoad (cpuCount w.outside).1 entries := by
  unfold maxLoadValue givenMaxLoad
  generalize valueOf entries "max_cpu_load_avg" .null = given
  cases given with
  | null =>
    refine Action.outcome_bind ?_ w
    intro count t
    exact notedDefault_outcome (defaultMaxLoad count) _ t
  | _ => rfl

theorem checkThresholds_outcome (cpuCount : Action σ (Option Int)) (value : Value) (w : World σ) :
    (checkThresholds cpuCount value w).1 = thresholdsOf (cpuCount w.outside).1 value := by
  unfold checkThresholds thresholdsOf
  apply Action.outcome_ofExcept_bind
  intro entries
  rw [← maxLoadValue_outcome]
  apply Action.outcome_bind
  intro given t
  apply Action.outcome_ofExcept_bind
  intro maxLoad
  apply Action.outcome_ofExcept_bind
  intro reservedMemory
  rfl

/-- **The outcome of a check**: the settings or the first fault, for what the host answers about its
processors. -/
theorem check_outcome (cpuCount : Action σ (Option Int)) (value : Value) (w : World σ) :
    (check cpuCount value w).1 = ofTable (cpuCount w.outside).1 value := by
  unfold check ofTable
  apply Action.outcome_ofExcept_bind
  intro resources
  rw [← checkThresholds_outcome]
  apply Action.outcome_bind
  intro thresholds t
  apply Action.outcome_ofExcept_bind
  intro accounts
  rfl

/-! ## Single values -/

/-- **The equation of a check for a number** that is bounded from below: NaN is as good as no
number. -/
theorem checkNumber_eq (field : String) (value : Value) (least : Double) :
    checkNumber field value (.real least) none
      = match number? value with
        | .error fault => .error fault
        | .ok found =>
          match found.filter (· ≠ .nan) with
          | none => .error (.refusal ⟨.number, some field, value⟩)
          | some d =>
            if Number.less (.real d) (.real least)
            then .error (.validation ⟨.atLeast (.real least) d, some field, value⟩)
              else .ok d := by
  unfold checkNumber
  cases number? value with
  | error fault => rfl
  | ok found =>
    rcases found with _ | _ | negative | ⟨negative, rank⟩ <;> rfl

/-- What a check for a number accepts. -/
theorem of_checkNumber_ok {field : String} {value : Value} {least d : Double}
    (h : checkNumber field value (.real least) none = .ok d) :
    number? value = .ok (some d) ∧ d ≠ .nan ∧ Number.less (.real d) (.real least)
      = false := by
  rw [checkNumber_eq] at h
  cases hnumber : number? value with
  | error fault =>
    rw [hnumber] at h
    cases h
  | ok found =>
    rw [hnumber] at h
    cases hfound : found.filter (· ≠ .nan) with
    | none =>
      simp only [hfound] at h
      cases h
    | some e =>
      simp only [hfound] at h
      obtain ⟨rfl, hnan⟩ := Option.filter_eq_some_iff.mp hfound
      split at h
      · cases h
      · rename_i hless
        obtain rfl : e = d := Except.ok.inj h
        exact ⟨rfl, of_decide_eq_true hnan, Bool.eq_false_iff.mpr hless⟩

/-! ## Accepted settings -/

/-- What is computed from two parts needs both of them. -/
theorem exists_of_bind_ok {α β : Type} {computed : Except Fault α}
    {next : α → Except Fault β} {b : β} (h : computed >>= next = .ok b) :
    ∃ a, computed = .ok a ∧ next a = .ok b := by
  cases computed with
  | error fault => cases h
  | ok a => exact ⟨a, rfl, h⟩

/-- **Thresholds that are accepted are numbers and not below their bounds.** -/
theorem of_thresholdsOf_ok {count : Except Fault (Option Int)} {value : Value}
    {thresholds : Thresholds} (h : thresholdsOf count value = .ok thresholds) :
    (thresholds.maxLoad ≠ .nan ∧
        Number.less (.real thresholds.maxLoad) (.real leastMaxLoad) = false) ∧
      thresholds.reservedMemory ≠ .nan ∧
        Number.less (.real thresholds.reservedMemory) (.real Double.zero) = false := by
  unfold thresholdsOf at h
  obtain ⟨entries, -, h⟩ := exists_of_bind_ok h
  obtain ⟨given, -, h⟩ := exists_of_bind_ok h
  obtain ⟨maxLoad, hmaxLoad, h⟩ := exists_of_bind_ok h
  obtain ⟨reservedMemory, hreserved, h⟩ := exists_of_bind_ok h
  obtain rfl := Except.ok.inj h
  exact ⟨(of_checkNumber_ok hmaxLoad).2, (of_checkNumber_ok hreserved).2⟩

theorem of_check_ok {cpuCount : Action σ (Option Int)} {value : Value} {settings : Settings}
    {w w' : World σ} (h : check cpuCount value w = (.ok settings, w')) :
    (settings.thresholds.maxLoad ≠ .nan ∧
        Number.less (.real settings.thresholds.maxLoad) (.real leastMaxLoad) = false) ∧
      settings.thresholds.reservedMemory ≠ .nan ∧
        Number.less (.real settings.thresholds.reservedMemory) (.real Double.zero) = false := by
  have houtcome := check_outcome cpuCount value w
  rw [h] at houtcome
  unfold ofTable at houtcome
  obtain ⟨resources, -, hrest⟩ := exists_of_bind_ok houtcome.symm
  obtain ⟨thresholds, hthresholds, hrest⟩ := exists_of_bind_ok hrest
  obtain ⟨accounts, -, hrest⟩ := exists_of_bind_ok hrest
  obtain rfl := Except.ok.inj hrest
  exact of_thresholdsOf_ok hthresholds

/-! ## Tables that are accepted -/

theorem filter_ne_nan {d : Double} (h : d ≠ .nan) : (some d).filter (· ≠ .nan) = some d := by
  rw [Option.filter_some, if_pos (decide_eq_true h)]

theorem checkNumber_real {field : String} {d least : Double} (hnan : d ≠ .nan)
    (h : Number.less (.real d) (.real least) = false) :
    checkNumber field (.real d) (.real least) none = .ok d := by
  have hnumber : number? (.real d) = .ok (some d) := rfl
  rw [checkNumber_eq, hnumber]
  simp only [filter_ne_nan hnan]
  rw [h, if_neg Bool.false_ne_true]

/-- The thresholds of a table in which each of them passes its check. -/
theorem thresholdsOf_table {count : Except Fault (Option Int)} {entries : List (String × Value)}
    {given : Value} {maxLoad reservedMemory : Double}
    (hgiven : givenMaxLoad count entries = .ok given)
    (hmaxLoad : checkNumber "host.resources.max_cpu_load_avg" given (.real leastMaxLoad) none
      = .ok maxLoad)
    (hreserved : checkNumber "host.resources.reserved_memory_gb"
      (valueOf entries "reserved_memory_gb" (.real defaultReservedMemory)) (.real Double.zero) none
      = .ok reservedMemory) :
    thresholdsOf count (.table entries) = .ok ⟨maxLoad, reservedMemory⟩ := by
  have htable : checkTable "host.resources" (.table entries) = .ok entries := rfl
  unfold thresholdsOf
  simp only [htable, ok_bind, hgiven, hmaxLoad, hreserved]
  rfl

/-- A check of a table checks the two tables in it. -/
theorem ofTable_table (count : Except Fault (Option Int)) (entries : List (String × Value)) :
    ofTable count (.table entries) = do
      let thresholds ← thresholdsOf count (valueOf entries "resources" (.table []))
      let accounts ← checkAccounts (valueOf entries "accounts" (.table []))
      return ⟨thresholds, accounts⟩ :=
  rfl

end Settings

end TenantHost
