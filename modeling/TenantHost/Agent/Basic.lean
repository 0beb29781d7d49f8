import TenantHost.Account.Directory
import TenantHost.Resource.Monitor
import TenantHost.Settings.File
/-!
# The state of an agent

What an agent keeps once it is known: the settings of its host, the platform, the account directory,
and whether the sensors are ready. Each is found out at its first use; if that fails, it stays
unknown and is tried again at the next one. Settings are forgotten when they are to be read from
another place, or on request.
-/

namespace TenantHost

/-- What an agent keeps. `loads` counts the settings that were loaded so far. -/
structure Agent where
  settingsPath : Path
  settings : Option Settings
  loads : Nat
  platform : Option Platform
  directory : Option (Directory × Option String)
  sensorsReady : Bool

/-- An action of an agent. -/
abbrev AgentAction (σ α : Type) : Type :=
  Action (Agent × World σ) α

namespace Agent

variable {σ α : Type}

/-- An agent that knows nothing yet. -/
def fresh (settingsPath : Path) : Agent :=
  ⟨settingsPath, none, 0, none, none, false⟩

/-- Changes what the agent keeps. -/
def keep (f : Agent → Agent) : AgentAction σ Unit :=
  .update fun s => (f s.1, s.2)

/-- What the agent keeps. -/
def kept : AgentAction σ Agent := do
  return (← Action.state).1

@[simp] theorem keep_apply (f : Agent → Agent) (s : Agent × World σ) :
    keep f s = (.ok (), (f s.1, s.2)) :=
  rfl

@[simp] theorem kept_apply (s : Agent × World σ) : kept s = (.ok s.1, s) :=
  rfl

/-! ## Settings -/

/-- Has the settings read from a place from now on. -/
def setSettingsPath (path : Path) : AgentAction σ Unit := do
  keep fun agent => { agent with settingsPath := path, settings := none }
  (World.note .manager .info ("Configuration path set to: " ++ path.text)).onSecond

/-- Forgets the settings. -/
def clearSettings : AgentAction σ Unit := do
  keep fun agent => { agent with settings := none }
  (World.note .manager .debug "Configuration cache cleared").onSecond

/-- The settings, loaded at their first use. -/
def getSettings (host : Host σ) : AgentAction σ Settings := do
  let agent ← kept
  match agent.settings with
  | some settings => pure settings
  | none => do
    let settings ← (Settings.load host agent.settingsPath).onSecond
    keep fun agent => { agent with settings := some settings, loads := agent.loads + 1 }
    return settings

/-- Whether the settings are known. -/
def settingsLoaded : AgentAction σ Bool := do
  return (← kept).settings.isSome

/-- What is known about the settings: whether they are loaded, where they are read from, and whether
tenants' commands get a prefix under those that are loaded. -/
structure SettingsInfo where
  loaded : Bool
  path : Path
  sudoEnable : Option Bool
  deriving DecidableEq, Repr

/-- What is known about the settings. Nothing is loaded for it. -/
def settingsInfo : AgentAction σ SettingsInfo := do
  let agent ← kept
  return ⟨← settingsLoaded, agent.settingsPath, agent.settings.map fun settings =>
    settings.accounts.sudoEnable⟩

/-! ## Platform -/

/-- The usual name of the host's system. -/
def systemName (host : Host σ) : AgentAction σ String := do
  return Platform.conventionalName (← (World.ask host.systemName).onSecond)

/-- The platform, found out at its first use. -/
def currentPlatform (host : Host σ) : AgentAction σ Platform := do
  match (← kept).platform with
  | some platform => pure platform
  | none => do
    let platform := Platform.classify (← systemName host)
    (World.note .platform .debug ("Detected platform: " ++ platform.name)).onSecond
    keep fun agent => { agent with platform := some platform }
    return platform

/-! ## Accounts -/

/-- What a directory is built from; what is not given comes from the settings or the host. -/
structure DirectoryRequest where
  platform : Option Platform
  database : Option Path
  sudoEnable : Option Bool
  currentUser : Option String
  deriving DecidableEq, Repr

/-- The account policy that a request and the settings make. The settings are asked only for what
the request leaves open. -/
def accountPolicy (host : Host σ) (request : DirectoryRequest) : AgentAction σ AccountPolicy := do
  match request.database, request.sudoEnable with
  | some database, some sudoEnable => pure ⟨sudoEnable, database⟩
  | database, sudoEnable => do
    let policy := (← getSettings host).accounts
    return ⟨sudoEnable.getD policy.sudoEnable, database.getD policy.database⟩

/-- Builds a directory, with the name of the current user if that is given. -/
def buildDirectory (host : Host σ) (request : DirectoryRequest) :
    AgentAction σ (Directory × Option String) := do
  let policy ← accountPolicy host request
  let platform ←
    match request.platform with
    | some platform => pure platform
    | none => currentPlatform host
  (platform.noteStrategy).onSecond
  return (⟨platform, policy.sudoEnable, policy.database⟩, request.currentUser)

/-- The directory of the agent, built at its first use. -/
def getDirectory (host : Host σ) : AgentAction σ (Directory × Option String) := do
  match (← kept).directory with
  | some directory => pure directory
  | none => do
    let directory ← buildDirectory host ⟨none, none, none, none⟩
    keep fun agent => { agent with directory := some directory }
    return directory

/-- An action of the agent's directory. What it learns about the current user is kept. -/
def withDirectory (host : Host σ) (act : Directory → DirectoryAction σ α) :
    AgentAction σ α := do
  let (directory, _) ← getDirectory host
  (act directory).onPart (fun s => (s.1.directory.bind Prod.snd, s.2))
    fun s t => ({ s.1 with directory := some (directory, t.1) }, t.2)

/-! ## Resources -/

/-- The monitor on the host's sensors. -/
def withMonitor (act : MonitorAction σ α) : AgentAction σ α :=
  act.onPart (fun s => (s.1.sensorsReady, s.2))
    fun s t => ({ s.1 with sensorsReady := t.1 }, t.2)

@[simp] theorem withMonitor_apply (act : MonitorAction σ α) (s : Agent × World σ) :
    withMonitor act s = ((act (s.1.sensorsReady, s.2)).1,
      ({ s.1 with sensorsReady := (act (s.1.sensorsReady, s.2)).2.1 },
        (act (s.1.sensorsReady, s.2)).2.2)) :=
  rfl

/-- The thresholds of the settings. -/
def thresholds (host : Host σ) : AgentAction σ (Number × Number) := do
  let thresholds := (← getSettings host).thresholds
  return (.real thresholds.maxLoad, .real thresholds.reservedMemory)

/-- Whether the host can take on work under the thresholds of its settings, by the readings of a
source. -/
def checkConfigured (host : Host σ) (source : Source σ) : AgentAction σ Bool := do
  let (maxLoad, reserved) ← thresholds host
  withMonitor (Monitor.checkResource source maxLoad reserved)

end Agent

end TenantHost
