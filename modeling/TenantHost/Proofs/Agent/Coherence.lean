import TenantHost.Proofs.Agent.Events
/-!
# Coherence of the settings

After any number of events, what an agent knows of its settings is what the first load gave that
succeeded since they were last forgotten: the settings that the place held then. From there to the
next reset every event that asks is given the same settings; as long as no load succeeds, each such
event tries anew.
-/

namespace TenantHost.Agent

variable {σ : Type} {host : Host σ} {s : Agent × World σ}

/-! ## Runs -/

/-- The state after some events. A failure ends the event that it happens in. -/
def runEvents (host : Host σ) : Agent × World σ → List (Event σ) → Agent × World σ
  | s, [] => s
  | s, event :: rest => runEvents host (event.act host s).2 rest

/-- The events of a run, each with the world that it happens in. -/
def happenings (host : Host σ) :
    Agent × World σ → List (Event σ) → List (World σ × Event σ)
  | _, [] => []
  | s, event :: rest => (s.2, event) :: happenings host (event.act host s).2 rest

/-- What a run has left behind: the place of the settings that was set last, and the worlds in which
they were asked for since the last reset, in order. -/
structure Past (σ : Type) where
  path : Path
  asked : List (World σ)

namespace Past

/-- The past after one more event. -/
def after (past : Past σ) : World σ × Event σ → Past σ
  | (_, .setPath path) => ⟨path, []⟩
  | (_, .clear) => ⟨past.path, []⟩
  | (w, event) => if event.asks then ⟨past.path, past.asked ++ [w]⟩ else past

/-- The past of a run that starts with a place. -/
def ofHappenings (path : Path) (happenings : List (World σ × Event σ)) : Past σ :=
  happenings.foldl after ⟨path, []⟩

/-- The settings of the first load that succeeds in one of the worlds. -/
def settings (host : Host σ) (past : Past σ) : Option Settings :=
  past.asked.findSome? fun w => (Settings.load host past.path w).1.toOption

theorem after_of_asks (past : Past σ) (w : World σ) {event : Event σ} (h : event.asks = true) :
    past.after (w, event) = ⟨past.path, past.asked ++ [w]⟩ := by
  cases event with
  | setPath | clear | askLoaded | askInfo | change => cases h
  | getSettings => rfl
  | checkConfigured source => rfl
  | buildDirectory request => exact if_pos h

theorem after_of_neither (past : Past σ) (w : World σ) {event : Event σ}
    (hresets : event.resets = false) (hasks : event.asks = false) :
    past.after (w, event) = past := by
  cases event with
  | setPath | clear => cases hresets
  | getSettings | checkConfigured => cases hasks
  | askLoaded | askInfo | change => rfl
  | buildDirectory request => exact if_neg (Bool.eq_false_iff.mp hasks)

/-- One more world counts if no load succeeded before. -/
theorem settings_append (host : Host σ) (path : Path) (asked : List (World σ)) (w : World σ) :
    settings host ⟨path, asked ++ [w]⟩
      = (settings host ⟨path, asked⟩).or (Settings.load host path w).1.toOption := by
  unfold settings
  rw [List.findSome?_append, List.findSome?_singleton]

end Past

/-! ## What an event does -/

theorem Event.act_of_some {settings : Settings} (hknown : s.1.settings = some settings)
    {event : Event σ} (hasks : event.asks = true) :
    event.act host s = event.actUnder host settings s := by
  rw [event.act_of_asks host hasks, Action.bind_ok (getSettings_of_some host hknown)]

theorem Event.act_of_none (hunknown : s.1.settings = none) {event : Event σ}
    (hasks : event.asks = true) :
    event.act host s
      = match Settings.load host s.1.settingsPath s.2 with
        | (.ok settings, w) => event.actUnder host settings (s.1.learned settings, w)
        | (.error fault, w) => (.error fault, (s.1, w)) := by
  rw [event.act_of_asks host hasks, Action.bind_apply, getSettings_of_none host hunknown]
  rcases Settings.load host s.1.settingsPath s.2 with ⟨fault | settings, w⟩ <;> rfl

/-! ## The invariant -/

/-- What an agent knows of its settings agrees with the past. -/
structure Recalls (host : Host σ) (past : Past σ) (agent : Agent) : Prop where
  path_eq : agent.settingsPath = past.path
  settings_eq : agent.settings = past.settings host

/-- An event that asks adds its world to those in which the settings were asked for. -/
theorem Recalls.after_asking {past : Past σ} (h : Recalls host past s.1) {event : Event σ}
    (hasks : event.asks = true) :
    Recalls host ⟨past.path, past.asked ++ [s.2]⟩ (event.act host s).2.1 := by
  cases hknown : s.1.settings with
  | some settings =>
    -- a load succeeded before, so the new world does not count
    obtain ⟨hsettings, hpath⟩ := event.keepsSettings_actUnder host settings hasks s
    have hearlier : past.settings host = some settings := h.settings_eq ▸ hknown
    rw [Event.act_of_some hknown hasks]
    refine ⟨hpath.trans h.path_eq, ?_⟩
    rw [hsettings, hknown, Past.settings_append]
    exact (congrArg (Option.or · _) hearlier).symm
  | none =>
    -- no load succeeded before, so it is the new world that counts
    have hearlier : past.settings host = none := h.settings_eq ▸ hknown
    rw [Event.act_of_none hknown hasks, h.path_eq]
    rcases hload : Settings.load host past.path s.2 with ⟨fault | settings, w⟩
    · refine ⟨h.path_eq, ?_⟩
      rw [Past.settings_append, hload]
      exact hknown.trans (congrArg (Option.or · none) hearlier).symm
    · obtain ⟨hsettings, hpath⟩ :=
        event.keepsSettings_actUnder host settings hasks (s.1.learned settings, w)
      refine ⟨hpath.trans h.path_eq, ?_⟩
      rw [Past.settings_append, hload]
      exact hsettings.trans (congrArg (Option.or · (some settings)) hearlier).symm

/-- **One event**: the agent goes on to agree with the past. -/
theorem Recalls.after {past : Past σ} (h : Recalls host past s.1) (event : Event σ) :
    Recalls host (past.after (s.2, event)) (event.act host s).2.1 := by
  cases hresets : event.resets with
  | true =>
    cases event with
    | setPath path => exact ⟨rfl, rfl⟩
    | clear => exact ⟨h.path_eq, rfl⟩
    | getSettings | askLoaded | askInfo | checkConfigured | buildDirectory | change => cases hresets
  | false =>
    cases hasks : event.asks with
    | true =>
      rw [past.after_of_asks s.2 hasks]
      exact h.after_asking hasks
    | false =>
      obtain ⟨hsettings, hpath⟩ := event.keepsSettings_act host hresets hasks s
      rw [past.after_of_neither s.2 hresets hasks]
      exact ⟨hpath.trans h.path_eq, hsettings.trans h.settings_eq⟩

theorem Recalls.runEvents {past : Past σ} (events : List (Event σ)) (h : Recalls host past s.1) :
    Recalls host ((happenings host s events).foldl Past.after past)
      (Agent.runEvents host s events).1 := by
  induction events generalizing s past with
  | nil => exact h
  | cons event rest ih => exact ih (h.after event)

/-- What the past gives was held in one of its worlds, and before that no load could succeed. -/
theorem Past.exists_first_of_settings {past : Past σ} {settings : Settings}
    (h : past.settings host = some settings) :
    ∃ earlier w later, past.asked = earlier ++ w :: later ∧
      Settings.HeldAt host past.path w.outside settings ∧
      ∀ u ∈ earlier, ∀ other, ¬ Settings.HeldAt host past.path u.outside other := by
  obtain ⟨earlier, w, later, hasked, hload, hearlier⟩ := List.findSome?_eq_some_iff.mp h
  refine ⟨earlier, w, later, hasked, ?_, ?_⟩
  · apply Settings.load_eq_ok_iff.mp
    cases houtcome : (Settings.load host past.path w).1 with
    | error fault =>
      rw [houtcome] at hload
      cases hload
    | ok loaded =>
      rw [houtcome] at hload
      exact congrArg _ (Option.some.inj hload)
  · intro u hu other hheld
    have hfailed := hearlier u hu
    rw [Settings.load_eq_ok_iff.mpr hheld] at hfailed
    cases hfailed

/-! ## Coherence -/

/-- Every event that asks for the settings is given these, and neither files nor processors matter
to it. -/
def Serves (host : Host σ) (settings : Settings) (s : Agent × World σ) : Prop :=
  ∀ event : Event σ, event.asks = true →
    event.act host s = event.actUnder host settings s ∧
      ∀ fileExists readFile cpuCount,
        event.act (host.withFiles fileExists readFile cpuCount) s = event.act host s

/-- Every event that asks for the settings loads them. If that fails, its fault is the answer, and
the agent is as it was. -/
def LoadsAfresh (host : Host σ) (s : Agent × World σ) : Prop :=
  ∀ event : Event σ, event.asks = true →
    event.act host s
      = match Settings.load host s.1.settingsPath s.2 with
        | (.ok settings, w) => event.actUnder host settings (s.1.learned settings, w)
        | (.error fault, w) => (.error fault, (s.1, w))

/-- The settings that an agent knows, if it knows any, are those of the first load that succeeded
since the last reset, which its place held then; they are given to all who ask, and stay until the
next reset. If it knows none, they are loaded by the next one who asks. What it says about them is
right. -/
structure Coherent (host : Host σ) (past : Past σ) (s : Agent × World σ) : Prop where
  path_eq : s.1.settingsPath = past.path
  settings_eq : s.1.settings = past.settings host
  held : ∀ settings, s.1.settings = some settings → ∃ earlier w later,
    past.asked = earlier ++ w :: later ∧ Settings.HeldAt host past.path w.outside settings ∧
      ∀ u ∈ earlier, ∀ other, ¬ Settings.HeldAt host past.path u.outside other
  serves : ∀ settings, s.1.settings = some settings → Serves host settings s
  stays : ∀ settings, s.1.settings = some settings → ∀ later : List (Event σ),
    (∀ event ∈ later, event.resets = false) →
      (runEvents host s later).1.settings = some settings
  loadsAfresh : s.1.settings = none → LoadsAfresh host s
  loaded : settingsLoaded s = (.ok s.1.settings.isSome, s)
  info : settingsInfo s = (.ok ⟨s.1.settings.isSome, past.path,
    s.1.settings.map fun settings => settings.accounts.sudoEnable⟩, s)

theorem serves_of_some {settings : Settings} (hknown : s.1.settings = some settings) :
    Serves host settings s := by
  intro event hasks
  refine ⟨Event.act_of_some hknown hasks, ?_⟩
  intro fileExists readFile cpuCount
  rw [Event.act_of_some hknown hasks, Event.act_of_some hknown hasks,
    event.actUnder_withFiles host fileExists readFile cpuCount settings hasks]

/-- **One event**: settings that are known stay known unless the event resets them. -/
theorem Event.act_keeps_some {settings : Settings} (hknown : s.1.settings = some settings)
    {event : Event σ} (hresets : event.resets = false) :
    (event.act host s).2.1.settings = some settings := by
  cases hasks : event.asks with
  | true =>
    rw [Event.act_of_some hknown hasks]
    exact (event.keepsSettings_actUnder host settings hasks s).1.trans hknown
  | false => exact (event.keepsSettings_act host hresets hasks s).1.trans hknown

theorem runEvents_keeps_some {settings : Settings} {later : List (Event σ)}
    (hknown : s.1.settings = some settings) (hlater : ∀ event ∈ later, event.resets = false) :
    (Agent.runEvents host s later).1.settings = some settings := by
  induction later generalizing s with
  | nil => exact hknown
  | cons event rest ih =>
    have hnext : (event.act host s).2.1.settings = some settings :=
      Event.act_keeps_some hknown (hlater event List.mem_cons_self)
    exact ih hnext fun e he => hlater e (List.mem_cons_of_mem event he)

theorem Recalls.coherent {past : Past σ} (h : Recalls host past s.1) : Coherent host past s where
  path_eq := h.path_eq
  settings_eq := h.settings_eq
  held := fun _ hknown => Past.exists_first_of_settings (h.settings_eq ▸ hknown)
  serves := fun _ hknown => serves_of_some hknown
  stays := fun _ hknown _ hlater => runEvents_keeps_some hknown hlater
  loadsAfresh := fun hunknown _ hasks => Event.act_of_none hunknown hasks
  loaded := rfl
  info := h.path_eq ▸ rfl

/-- **After any events, what is known of the settings is coherent with the past.** -/
theorem runEvents_coherent (host : Host σ) (path : Path) (w : World σ)
    (events : List (Event σ)) :
    Coherent host (Past.ofHappenings path (happenings host (fresh path, w) events))
      (runEvents host (fresh path, w) events) :=
  Recalls.coherent (Recalls.runEvents events ⟨rfl, rfl⟩)

end TenantHost.Agent
