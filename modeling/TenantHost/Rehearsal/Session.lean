import TenantHost.Agent.Basic
import TenantHost.Command.Shared
import TenantHost.Rehearsal.Machine
/-!
# Sessions on a rehearsed host

A session is an agent on a rehearsed host, with a directory and a monitor of its own beside those of
the agent. Every operation is asked for by itself, and its lines and commands are its own.
-/

namespace TenantHost.Rehearsal

/-- A session. Its monitor reads the given metrics or the sensors of the machine; `shown` is the
number of the settings that were given out last. -/
structure Session where
  agent : Agent
  world : World Machine
  launching : Bool
  executor : Option (Executor Machine)
  directory : Option (Directory × Option String)
  onSensors : Bool
  sensorsReady : Bool
  shown : Option Nat

/-- An operation of a session. -/
abbrev SessionAction (α : Type) : Type :=
  Action Session α

namespace Session

variable {α : Type}

/-- A session that begins. -/
def start (machine : Machine) (launching : Bool) (settingsPath : Path) : Session :=
  ⟨Agent.fresh settingsPath, World.start machine, launching, none, none, false, false, none⟩

/-- The session with an empty journal, for its next operation. -/
def turnPage (session : Session) : Session :=
  { session with world := World.start session.world.outside }

/-! ## Parts of a session -/

/-- An action in the world of the session. -/
def inWorld (act : Action (World Machine) α) : SessionAction α :=
  act.onPart Session.world fun session world => { session with world }

/-- An action of the machine. -/
def onMachine (act : Action Machine α) : SessionAction α :=
  inWorld (World.ask act)

/-- An action of the agent. -/
def inAgent (act : AgentAction Machine α) : SessionAction α :=
  act.onPart (fun session => (session.agent, session.world))
    fun session state => { session with agent := state.1, world := state.2 }

/-- The host of the session. -/
def host : SessionAction (Host Machine) := do
  return Machine.host (← Action.state).launching

/-- An action of the agent on the host of the session. -/
def withHost (act : Host Machine → AgentAction Machine α) : SessionAction α := do
  inAgent (act (← host))

/-! ## Platform -/

/-- What the machine reports from now on; what is not told stays. -/
structure Report where
  system : Option (Except Fault String)
  user : Option (Except Fault String)
  processId : Option Int

/-- Changes what the machine reports. -/
def setReport (report : Report) : SessionAction Unit :=
  onMachine (.update fun machine =>
    { machine with
      system := report.system.getD machine.system
      user := report.user.getD machine.user
      processId := report.processId.getD machine.processId })

/-- The usual name of the system. -/
def systemName : SessionAction String :=
  withHost Agent.systemName

/-- The platform of the agent. -/
def currentPlatform : SessionAction Platform :=
  withHost Agent.currentPlatform

/-- Whether the platform of the agent is a certain one. -/
def isPlatform (platform : Platform) : SessionAction Bool := do
  return (← currentPlatform) == platform

/-- The name of the current user. -/
def userName : SessionAction String := do
  onMachine (← host).userName

/-- The number of the agent. -/
def processId : SessionAction Int := do
  onMachine (← host).processId

/-! ## Commands -/

/-- Runs a command line. -/
def runLine (line : String) : SessionAction String := do
  inWorld ((← host).execute.runLine line)

/-- Runs a command. -/
def run (argv : List String) : SessionAction String := do
  inWorld ((← host).execute.run argv)

/-- An action on the executor that the process of the session keeps. -/
def inProcess (act : Executor Machine → SharedAction Machine α) : SessionAction α := do
  (act (← host).execute).onPart (fun session => (session.executor, session.world))
    fun session state => { session with executor := state.1, world := state.2 }

/-- Runs a command line through the executor of the process. -/
def runLineShared (line : String) : SessionAction String :=
  inProcess fun usual => usual.runLineShared line

/-- Runs a command through the executor of the process. -/
def runShared (argv : List String) : SessionAction String :=
  inProcess fun usual => usual.runShared argv

/-- Launches a program in a directory. -/
def launch (directory : Option Path) (argv : List String) : SessionAction String :=
  inWorld (Executor.ofLauncher (Machine.launch directory) argv)

/-! ## Strategies -/

/-- An answer of a platform's strategy. -/
def withStrategy (platform : Platform) (answer : Except Fault α) : SessionAction α := do
  inWorld platform.noteStrategy
  Action.ofExcept answer

/-- The accounts that a platform's strategy lists. -/
def listNames (platform : Platform) (database : Path) : SessionAction (List String) := do
  let host ← host
  inWorld platform.noteStrategy
  inWorld ((platform.strategy database).listNames host.execute host.readFile)

/-! ## Accounts -/

/-- Builds the directory of the session. -/
def buildDirectory (request : Agent.DirectoryRequest) : SessionAction Directory := do
  let directory ← withHost fun host => Agent.buildDirectory host request
  Action.update fun session => { session with directory := some directory }
  return directory.1

/-- The fault of a session that has no directory. -/
def noDirectory : Fault :=
  .notATable "NoneType"

/-- An action of the directory of the session. -/
def inDirectory (act : Host Machine → Directory → DirectoryAction Machine α) :
    SessionAction α := do
  let host ← host
  match (← Action.state).directory with
  | none => Action.fail noDirectory
  | some (directory, _) =>
    (act host directory).onPart (fun session => (session.directory.bind Prod.snd, session.world))
      fun session state => { session with directory := some (directory, state.1), world := state.2 }

/-- An action of the directory of the agent or of the session. -/
def withDirectory (ofAgent : Bool)
    (act : Host Machine → Directory → DirectoryAction Machine α) :
    SessionAction α :=
  if ofAgent then withHost fun host => Agent.withDirectory host (act host) else inDirectory act

/-! ## Resources -/

/-- Begins a monitor of the session's own. -/
def startMonitor (onSensors : Bool) : SessionAction Unit :=
  .update fun session => { session with onSensors, sensorsReady := false }

/-- Where the monitor of the session reads. -/
def source (session : Session) : Source Machine :=
  if session.onSensors then .system Machine.sensorsOf else .given Machine.readMetric

/-- An action of the monitor of the agent or of the session. -/
def withMonitor (ofAgent : Bool) (act : Source Machine → MonitorAction Machine α) :
    SessionAction α := do
  if ofAgent then inAgent (Agent.withMonitor (act (.system Machine.sensorsOf)))
  else
    (act (← Action.state).source).onPart (fun session => (session.sensorsReady, session.world))
      fun session state => { session with sensorsReady := state.1, world := state.2 }

/-- Whether the host can take on work under the thresholds of its settings. -/
def checkConfigured (ofAgent : Bool) : SessionAction Bool := do
  if ofAgent then withHost fun host => Agent.checkConfigured host (.system host.sensors)
  else
    let (maxLoad, reserved) ← withHost Agent.thresholds
    withMonitor false fun source => Monitor.checkResource source maxLoad reserved

/-! ## Settings -/

/-- The settings, and whether they are those that were given out last. -/
def settings : SessionAction (Settings × Bool) := do
  let settings ← withHost Agent.getSettings
  let session ← Action.state
  Action.update fun session => { session with shown := some session.agent.loads }
  return (settings, session.shown == some session.agent.loads)

/-- A document of the machine. -/
def readDocument (path : Path) (description : String) : SessionAction Value := do
  inWorld (Settings.readDocument (← host) path description)

/-- The host's table of a document of the machine. -/
def readHostTable (path : Path) : SessionAction Value := do
  inWorld (Settings.readHostTable (← host) path)

/-- The thresholds in a raw table. -/
def checkThresholds (value : Value) : SessionAction Thresholds := do
  inWorld (Settings.checkThresholds (← host).cpuCount value)

/-- The settings in a raw table. -/
def checkSettings (value : Value) : SessionAction Settings := do
  inWorld (Settings.check (← host).cpuCount value)

/-! ## Faults and tasks -/

/-- The journal of a task that refuses lines of certain levels. -/
def refusingTask (refused : List Level) : TaskJournal :=
  ⟨⟨"task"⟩, fun level =>
    if level ∈ refused then some (Fault.ofKind "RuntimeError" "task log failed") else none⟩

/-- The journal of a task that shares the channel of directory work. -/
def sharedTask : TaskJournal :=
  ⟨.users, fun _ => none⟩

/-- Handles a fault. -/
def handle (fault : Fault) (context : String) (level : Option Level) (goesOn : Bool)
    (channel : Channel) (around : Option Fault) : SessionAction Unit :=
  inWorld (if goesOn then fault.escalate context level channel around
    else fault.report context level channel around)

/-- Writes a line of a task. -/
def taskLine (task : Option TaskJournal) (level : Level) (text : String) (about : Option Fault) :
    SessionAction Unit :=
  inWorld ((Directory.log task).write level text about)

end Session

end TenantHost.Rehearsal
