import TenantHost.Agent.Basic
import TenantHost.Proofs.Settings.File
/-!
# Events around the settings

Several actions of an agent ask for its settings. All of them do so first, and what they do then is
a matter of the settings that they are given: they keep them as they are, and do not look at the
file. The other actions reset the settings or leave them alone.
-/

namespace TenantHost

variable {σ : Type}

/-- A host with other files and other processors. -/
def Host.withFiles (host : Host σ) (fileExists : Path → Action σ Bool)
    (readFile : Path → Action σ (List UInt8)) (cpuCount : Action σ (Option Int)) : Host σ :=
  { host with fileExists, readFile, cpuCount }

namespace Agent

/-! ## Requests -/

/-- A request in which an account policy stands for what was left open. -/
def DirectoryRequest.filled (request : DirectoryRequest) (policy : AccountPolicy) :
    DirectoryRequest :=
  { request with
    database := some (request.database.getD policy.database)
    sudoEnable := some (request.sudoEnable.getD policy.sudoEnable) }

/-- Whether a request leaves something to the settings. -/
def DirectoryRequest.isOpen (request : DirectoryRequest) : Bool :=
  request.database.isNone || request.sudoEnable.isNone

theorem accountPolicy_of_open (host : Host σ) {request : DirectoryRequest}
    (h : request.isOpen = true) :
    accountPolicy host request = do
      let policy := (← getSettings host).accounts
      return ⟨request.sudoEnable.getD policy.sudoEnable,
        request.database.getD policy.database⟩ := by
  rcases request with ⟨platform, _ | database, _ | sudoEnable, currentUser⟩
  · rfl
  · rfl
  · rfl
  · cases h

/-- **An open request is filled from the settings** and then builds the directory without them. -/
theorem buildDirectory_of_open (host : Host σ) {request : DirectoryRequest}
    (h : request.isOpen = true) :
    buildDirectory host request
      = getSettings host >>= fun settings =>
        buildDirectory host (request.filled settings.accounts) := by
  unfold buildDirectory
  rw [accountPolicy_of_open host h]
  simp only [bind_assoc, pure_bind]
  rfl

/-! ## Events -/

/-- What happens around the settings of an agent: something is asked of the agent, or the outside
changes. -/
inductive Event (σ : Type) where
  | setPath (path : Path)
  | clear
  | getSettings
  | askLoaded
  | askInfo
  | checkConfigured (source : Source σ)
  | buildDirectory (request : DirectoryRequest)
  | change (outside : σ → σ)

/-- What the agent answers to an event. -/
inductive Answer where
  | nothing
  | settings (settings : Settings)
  | loaded (answer : Bool)
  | info (info : SettingsInfo)
  | admitted (answer : Bool)
  | directory (directory : Directory × Option String)

namespace Event

/-- What the agent does when an event happens. -/
def act (host : Host σ) : Event σ → AgentAction σ Answer
  | .setPath path => do
    setSettingsPath path
    return .nothing
  | .clear => do
    clearSettings
    return .nothing
  | .getSettings => return .settings (← Agent.getSettings host)
  | .askLoaded => return .loaded (← settingsLoaded)
  | .askInfo => return .info (← settingsInfo)
  | .checkConfigured source => return .admitted (← Agent.checkConfigured host source)
  | .buildDirectory request => return .directory (← Agent.buildDirectory host request)
  | .change outside => do
    .update fun s => (s.1, { s.2 with outside := outside s.2.outside })
    return .nothing

/-- Whether the settings have to be loaded anew after an event. -/
def resets : Event σ → Bool
  | .setPath _ | .clear => true
  | _ => false

/-- Whether an event asks for the settings. -/
def asks : Event σ → Bool
  | .getSettings | .checkConfigured _ => true
  | .buildDirectory request => request.isOpen
  | _ => false

/-- What the agent does when an event happens that asks for the settings and is given these. -/
def actUnder (host : Host σ) (settings : Settings) : Event σ → AgentAction σ Answer
  | .getSettings => return .settings settings
  | .checkConfigured source => do
    return .admitted (← withMonitor
      (Monitor.checkResource source (.real settings.thresholds.maxLoad)
      (.real settings.thresholds.reservedMemory)))
  | .buildDirectory request =>
    return .directory (← Agent.buildDirectory host (request.filled settings.accounts))
  | event => event.act host

/-- **An event that asks for the settings does so first**, and the rest is a matter of what it is
given. -/
theorem act_of_asks (host : Host σ) {event : Event σ} (h : event.asks = true) :
    event.act host = Agent.getSettings host >>= fun settings => event.actUnder host settings := by
  cases event with
  | setPath | clear | askLoaded | askInfo | change => cases h
  | getSettings => rfl
  | checkConfigured source =>
    unfold act actUnder Agent.checkConfigured thresholds
    simp only [bind_assoc, pure_bind]
  | buildDirectory request =>
    show (Agent.buildDirectory host request >>= fun directory =>
      pure (Answer.directory directory)) = _
    rw [buildDirectory_of_open host h, bind_assoc]
    rfl

/-- Files and processors do not matter to what is done under settings that are given. -/
theorem actUnder_withFiles (host : Host σ) (fileExists : Path → Action σ Bool)
    (readFile : Path → Action σ (List UInt8)) (cpuCount : Action σ (Option Int))
    (settings : Settings) {event : Event σ} (h : event.asks = true) :
    event.actUnder (host.withFiles fileExists readFile cpuCount) settings
      = event.actUnder host settings := by
  cases event with
  | setPath | clear | askLoaded | askInfo | change => cases h
  | getSettings => rfl
  | checkConfigured source => rfl
  | buildDirectory request => rfl

end Event

/-! ## Asking for the settings -/

theorem getSettings_of_some (host : Host σ) {s : Agent × World σ} {settings : Settings}
    (h : s.1.settings = some settings) : getSettings host s = (.ok settings, s) := by
  simp [getSettings, h]

/-- An agent that has loaded some settings. -/
def learned (agent : Agent) (settings : Settings) : Agent :=
  { agent with settings := some settings, loads := agent.loads + 1 }

/-- **Settings that are not known are loaded.** They are kept if that succeeds; if not, nothing
changes but for the world. -/
theorem getSettings_of_none (host : Host σ) {s : Agent × World σ} (h : s.1.settings = none) :
    getSettings host s
      = match Settings.load host s.1.settingsPath s.2 with
        | (.ok settings, w) => (.ok settings, (s.1.learned settings, w))
        | (.error fault, w) => (.error fault, (s.1, w)) := by
  rcases hload : Settings.load host s.1.settingsPath s.2 with ⟨fault | settings, w⟩ <;>
    simp [getSettings, h, hload, learned]

theorem outcome_getSettings_of_none (host : Host σ) {s : Agent × World σ}
    (h : s.1.settings = none) :
    (getSettings host s).1 = (Settings.load host s.1.settingsPath s.2).1 := by
  rw [getSettings_of_none host h]
  rcases Settings.load host s.1.settingsPath s.2 with ⟨fault | settings, w⟩
  · rfl
  · rfl

/-! ## Actions that leave the settings alone -/

/-- An action that keeps the settings as they are, and their place. -/
def KeepsSettings {α : Type} (act : AgentAction σ α) : Prop :=
  ∀ s, (act s).2.1.settings = s.1.settings ∧ (act s).2.1.settingsPath = s.1.settingsPath

namespace KeepsSettings

variable {α β : Type}

theorem pure (a : α) : KeepsSettings (Pure.pure a : AgentAction σ α) :=
  fun _ => ⟨rfl, rfl⟩

theorem onSecond (act : Action (World σ) α) : KeepsSettings (act.onSecond : AgentAction σ α) :=
  fun _ => ⟨rfl, rfl⟩

theorem bind {act : AgentAction σ α} {next : α → AgentAction σ β} (hact : KeepsSettings act)
    (hnext : ∀ a, KeepsSettings (next a)) : KeepsSettings (act >>= next) := by
  intro s
  have hs := hact s
  rcases happly : act s with ⟨fault | a, t⟩
  · rw [Action.bind_error happly]
    rw [happly] at hs
    exact hs
  · rw [Action.bind_ok happly]
    rw [happly] at hs
    exact ⟨(hnext a t).1.trans hs.1, (hnext a t).2.trans hs.2⟩

end KeepsSettings

theorem keepsSettings_withMonitor {α : Type} (act : MonitorAction σ α) :
    KeepsSettings (withMonitor act) :=
  fun _ => ⟨rfl, rfl⟩

theorem keepsSettings_kept : KeepsSettings (kept : AgentAction σ Agent) :=
  fun _ => ⟨rfl, rfl⟩

theorem keepsSettings_currentPlatform (host : Host σ) : KeepsSettings (currentPlatform host) := by
  apply keepsSettings_kept.bind
  intro agent
  cases agent.platform with
  | some platform => exact .pure platform
  | none =>
    apply ((KeepsSettings.onSecond _).bind fun name => .pure _).bind
    intro name
    apply (KeepsSettings.onSecond _).bind
    intro _
    exact KeepsSettings.bind (fun _ => ⟨rfl, rfl⟩) fun _ => .pure _

theorem accountPolicy_of_closed (host : Host σ) {request : DirectoryRequest}
    (h : request.isOpen = false) : ∃ policy, accountPolicy host request = pure policy := by
  rcases request with ⟨platform, _ | database, _ | sudoEnable, currentUser⟩
  · cases h
  · cases h
  · cases h
  · exact ⟨⟨sudoEnable, database⟩, rfl⟩

theorem keepsSettings_buildDirectory (host : Host σ) {request : DirectoryRequest}
    (h : request.isOpen = false) : KeepsSettings (buildDirectory host request) := by
  obtain ⟨policy, hpolicy⟩ := accountPolicy_of_closed host h
  unfold buildDirectory
  rw [hpolicy, pure_bind]
  cases request.platform with
  | some platform =>
    apply (KeepsSettings.pure platform).bind
    intro platform
    exact (KeepsSettings.onSecond _).bind fun _ => .pure _
  | none =>
    apply (keepsSettings_currentPlatform host).bind
    intro platform
    exact (KeepsSettings.onSecond _).bind fun _ => .pure _

namespace Event

theorem keepsSettings_act (host : Host σ) {event : Event σ} (hresets : event.resets = false)
    (hasks : event.asks = false) : KeepsSettings (event.act host) := by
  cases event with
  | setPath | clear => cases hresets
  | getSettings | checkConfigured => cases hasks
  | askLoaded | askInfo | change => exact fun _ => ⟨rfl, rfl⟩
  | buildDirectory request =>
    exact (keepsSettings_buildDirectory host hasks).bind fun _ => .pure _

theorem keepsSettings_actUnder (host : Host σ) (settings : Settings) {event : Event σ}
    (hasks : event.asks = true) : KeepsSettings (event.actUnder host settings) := by
  cases event with
  | setPath | clear | askLoaded | askInfo | change => cases hasks
  | getSettings => exact .pure _
  | checkConfigured source => exact (keepsSettings_withMonitor _).bind fun _ => .pure _
  | buildDirectory request =>
    exact (keepsSettings_buildDirectory host rfl).bind fun _ => .pure _

end Event

end Agent

end TenantHost
