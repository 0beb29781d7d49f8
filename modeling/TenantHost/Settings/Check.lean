import TenantHost.Settings.Basic
import TenantHost.Double.Reading
import TenantHost.Journal.Handling
/-!
# Checking settings

Raw settings become settings by checks of single values: a number within bounds, a truth value, a
text that is not blank. What is left out has a default. Values are checked in a fixed order, and the
first one that does not meet its requirement is the fault. Keys that are not asked for do not
matter.
-/

namespace TenantHost.Settings

variable {σ : Type}

/-! ## Single values -/

/-- The double that a value means: a number, or a text that writes one. -/
def number? (value : Value) : Except Fault (Option Double) :=
  match value with
  | .int n => some <$> (Number.int n).toDouble.mapError .overflow
  | .real d => .ok (some d)
  | .text s => .ok (Double.ofText? s.toList)
  | _ => .ok none

/-- Checks that a value is a number, not NaN, within bounds that are admissible themselves. -/
def checkNumber (field : String) (value : Value) (least : Number) (greatest : Option Number) :
    Except Fault Double :=
  let refuse (requirement : Requirement) :=
    Except.error (Fault.refusal ⟨requirement, some field, value⟩)
  match number? value with
  | .error fault => .error fault
  | .ok none => refuse .number
  | .ok (some .nan) => refuse .number
  | .ok (some d) =>
    if Number.less (.real d) least then refuse (.atLeast least d)
    else
      match greatest with
      | none => .ok d
      | some bound => if bound.less (.real d) then refuse (.atMost bound d) else .ok d

/-- Checks that a value is a truth value. -/
def checkBool (field : String) (value : Value) : Except Fault Bool :=
  match value with
  | .bool b => .ok b
  | _ => .error (.refusal ⟨.boolean, some field, value⟩)

/-- Checks that a value is a text with more in it than blanks. -/
def checkText (field : String) (value : Value) : Except Fault String :=
  match value with
  | .text s =>
    if (Text.trim s.toList).isEmpty then .error (.validation ⟨.nonEmptyText, some field, value⟩)
    else .ok s
  | _ => .error (.validation ⟨.nonEmptyText, some field, value⟩)

/-- Checks that a value is a table. -/
def checkTable (field : String) (value : Value) : Except Fault (List (String × Value)) :=
  match value with
  | .table entries => .ok entries
  | _ => .error (.validation ⟨.table, some field, .null⟩)

/-- The value of a key, or a default if the table does not have it. -/
def valueOf (entries : List (String × Value)) (key : String) (default : Value) : Value :=
  (entries.lookup key).getD default

/-! ## Tables -/

/-- The threshold for the load of a host with a number of processors: two for each, and one
processor if their number is unknown or zero. -/
def defaultMaxLoad (cpuCount : Option Int) : Except Fault Double :=
  let count := (cpuCount.filter (· ≠ 0)).getD 1
  (Number.int (count * 2)).toDouble.mapError .overflow

/-- The threshold for the load as it is given, or the default, which is written to the journal. -/
def maxLoadValue (cpuCount : Action σ (Option Int)) (entries : List (String × Value)) :
    Action (World σ) Value :=
  match valueOf entries "max_cpu_load_avg" .null with
  | .null => do
    let default ← Action.ofExcept (defaultMaxLoad (← World.ask cpuCount))
    World.note .validators .debug ("host.resources.max_cpu_load_avg not set, using "
      ++ default.text)
    return .real default
  | value => pure value

/-- The thresholds in a raw table. -/
def checkThresholds (cpuCount : Action σ (Option Int)) (value : Value) :
    Action (World σ) Thresholds := do
  let entries ← Action.ofExcept (checkTable "host.resources" value)
  let given ← maxLoadValue cpuCount entries
  let maxLoad ← Action.ofExcept
    (checkNumber "host.resources.max_cpu_load_avg" given (.real leastMaxLoad) none)
  let reserved := valueOf entries "reserved_memory_gb" (.real defaultReservedMemory)
  let reservedMemory ← Action.ofExcept
    (checkNumber "host.resources.reserved_memory_gb" reserved (.real Double.zero) none)
  return ⟨maxLoad, reservedMemory⟩

/-- The account policy in a raw table. -/
def checkAccounts (value : Value) : Except Fault AccountPolicy := do
  let entries ← checkTable "host.accounts" value
  let sudoEnable ← checkBool "host.accounts.sudo_enable"
      (valueOf entries "sudo_enable" (.bool true))
  let database ← checkText "host.accounts.passwd_path"
    (valueOf entries "passwd_path" (.text defaultDatabase))
  return ⟨sudoEnable, Path.ofText database⟩

/-- The value of a key of what should be a table; an empty table if the key is missing. -/
def tableOf (value : Value) (key : String) : Except Fault Value :=
  match value with
  | .table entries => .ok (valueOf entries key (.table []))
  | other => .error (.notATable other.typeName)

/-- The settings in a raw table. -/
def check (cpuCount : Action σ (Option Int)) (value : Value) : Action (World σ) Settings := do
  let thresholds ← checkThresholds cpuCount (← Action.ofExcept (tableOf value "resources"))
  let accounts ← Action.ofExcept (tableOf value "accounts" >>= checkAccounts)
  return ⟨thresholds, accounts⟩

end TenantHost.Settings
