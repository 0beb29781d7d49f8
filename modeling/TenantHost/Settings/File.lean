import TenantHost.Settings.Check
import TenantHost.Toml.Parser
import TenantHost.Host.Basic
/-!
# Settings files

A settings file is a document with a table for the host. Reading one says what is read; a file that
is missing or is no document is written to the journal before it becomes a fault.
-/

namespace TenantHost.Settings

variable {σ : Type}

/-- The document that the bytes of a file are. -/
def documentOf (bytes : List UInt8) : Except Fault Value :=
  match Text.Utf8.decodeStrict bytes with
  | .error error => .error (.undecodable error)
  | .ok text => Toml.parse text

/-- Reads a document; `description` says what it is. -/
def readDocument (host : Host σ) (path : Path) (description : String) :
    Action (World σ) Value := do
  World.note .loader .info ("Loading " ++ description ++ " from: " ++ path.text)
  if !(← World.ask (host.fileExists path)) then
    World.note .loader .error (description ++ " not found: " ++ path.text)
    Action.fail (.absentFile description path)
  else
    let bytes ← World.ask (host.readFile path)
    match documentOf bytes with
    | .ok document => pure document
    | .error (.malformedDocument impossibleDate) =>
      let context := Fault.settingsContext ("parsing " ++ description)
      (Fault.malformedDocument impossibleDate).escalate context (some .critical) .loader none
    | .error fault => Action.fail fault

/-- Reads the host's table of a document, an empty one if there is none. -/
def readHostTable (host : Host σ) (path : Path) : Action (World σ) Value := do
  let document ← readDocument host path "host configuration file"
  Action.ofExcept (tableOf document "host")

/-- The settings in an existing file. -/
def ofFile (host : Host σ) (path : Path) : Action (World σ) Settings := do
  let settings ← check host.cpuCount (← readHostTable host path)
  World.note .manager .info
    ("Loaded host configuration: max_cpu_load_avg=" ++ settings.thresholds.maxLoad.text ++
      ", reserved_memory_gb=" ++ settings.thresholds.reservedMemory.text ++
      ", sudo_enable=" ++ (Value.bool settings.accounts.sudoEnable).display)
  return settings

/-- The settings of a host: those of its file, or the defaults if there is no file. -/
def load (host : Host σ) (path : Path) : Action (World σ) Settings := do
  if ← World.ask (host.fileExists path) then
    match ← (ofFile host path).attempt with
    | .ok settings => pure settings
    | .error fault =>
      fault.escalate (Fault.settingsContext "processing configuration") (some .critical)
        .manager none
  else
    World.note .manager .warning
      ("Host configuration file not found: " ++ path.text ++ ", using built-in defaults")
    check host.cpuCount (.table [])

end TenantHost.Settings
