import TenantHost.Proofs.Agent.Building
/-!
# Directories of a session

What an agent knows of its platform and of its own directory is told by the history of its session:
the platform is the first one that was detected, and the directory the first one that could be built
for it. Every directory of a session is as it was requested, and what was found out stays, whatever
happens.
-/

namespace TenantHost.Agent

variable {σ : Type} {host : Host σ} {request : DirectoryRequest} {s t : Agent × World σ}

/-! ## Sessions -/

/-- What happens in a session: an event around the settings, a detection of the platform, or a use
of the agent's directory. -/
inductive Occurrence (σ : Type) where
  | happens (event : Event σ)
  | detect
  | useDirectory (use : Directory → DirectoryAction σ Unit)

/-- What the agent does in a session; its answers do not matter here. -/
def Occurrence.act (host : Host σ) : Occurrence σ → AgentAction σ Unit
  | .happens event => do
    let _ ← event.act host
    return
  | .detect => do
    let _ ← currentPlatform host
    return
  | .useDirectory use => withDirectory host use

/-- The state after a session. A failure ends the occurrence that it happens in. -/
def runSession (host : Host σ) : Agent × World σ → List (Occurrence σ) → Agent × World σ
  | s, [] => s
  | s, occurrence :: rest => runSession host (occurrence.act host s).2 rest

/-- The occurrences of a session, each with the state that it happens in. -/
def history (host : Host σ) :
    Agent × World σ → List (Occurrence σ) → List ((Agent × World σ) × Occurrence σ)
  | _, [] => []
  | s, occurrence :: rest => (s, occurrence) :: history host (occurrence.act host s).2 rest

/-- The platform that is detected in an occurrence, if that is tried and does not fail. -/
def detection (host : Host σ) : (Agent × World σ) × Occurrence σ → Option Platform
  | (s, .detect) => detected host s.2.outside
  | (s, .happens (.buildDirectory request)) => detectedFor host request s
  | (s, .useDirectory _) =>
    match s.1.directory with
    | some _ => none
    | none => detectedFor host .blank s
  | _ => none

/-- The directory that is built for the agent in an occurrence, if that is tried and does not
fail. -/
def construction (host : Host σ) : (Agent × World σ) × Occurrence σ → Option Directory
  | (s, .useDirectory _) => (buildDirectory host .blank s).1.toOption.map Prod.fst
  | _ => none

/-! ## One occurrence -/

theorem state_bind_pure {α β : Type} (act : AgentAction σ α)
    (f : α → β) (s : Agent × World σ) :
    ((act >>= fun a => pure (f a) : AgentAction σ β) s).2 = (act s).2 := by
  rcases hact : act s with ⟨fault | a, t⟩ <;> simp [hact]

/-- An event finds out a platform only if it builds a directory, and it leaves the agent's own one
alone. -/
theorem rest_event (host : Host σ) (event : Event σ) (s : Agent × World σ) :
    (event.act host s).2.1.platform = s.1.platform.or (detection host (s, .happens event)) ∧
      (event.act host s).2.1.directory = s.1.directory := by
  cases event with
  | setPath | clear | askLoaded | askInfo | change => exact ⟨(Option.or_none).symm, rfl⟩
  | getSettings =>
    have hstate : ((Event.getSettings : Event σ).act host s).2 = (getSettings host s).2 :=
      state_bind_pure _ Answer.settings s
    obtain ⟨hplatform, hdirectory⟩ := rest_getSettings host s
    rw [hstate]
    exact ⟨hplatform.trans (Option.or_none).symm, hdirectory⟩
  | checkConfigured source =>
    obtain ⟨hplatform, hdirectory⟩ := rest_getSettings host s
    have hasks : (Event.checkConfigured source).asks = true := rfl
    have hact := Event.act_of_asks host hasks
    rcases hget : getSettings host s with ⟨fault | settings, t⟩
    · rw [hget] at hplatform hdirectory
      rw [hact, Action.bind_error hget]
      exact ⟨hplatform.trans (Option.or_none).symm, hdirectory⟩
    · rw [hget] at hplatform hdirectory
      have hstate : ((Event.checkConfigured source).actUnder host settings t).2 = _ :=
        state_bind_pure (withMonitor _) Answer.admitted t
      rw [hact, Action.bind_ok hget, hstate]
      exact ⟨hplatform.trans (Option.or_none).symm, hdirectory⟩
  | buildDirectory request =>
    have hstate : ((Event.buildDirectory request).act host s).2
        = (buildDirectory host request s).2 :=
      state_bind_pure _ Answer.directory s
    rw [hstate]
    exact rest_buildDirectory host request s

/-- An occurrence that is an event leaves the state of that event. -/
theorem state_happens (host : Host σ) (event : Event σ) (s : Agent × World σ) :
    ((Occurrence.happens event).act host s).2 = (event.act host s).2 :=
  state_bind_pure _ (fun _ => ()) s

theorem state_detect (host : Host σ) (s : Agent × World σ) :
    ((Occurrence.detect : Occurrence σ).act host s).2 = (currentPlatform host s).2 :=
  state_bind_pure _ (fun _ => ()) s

/-- **One occurrence** finds out the platform that it detects, if none is known. -/
theorem Occurrence.platform_act (host : Host σ) (occurrence : Occurrence σ)
    (s : Agent × World σ) :
    (occurrence.act host s).2.1.platform = s.1.platform.or (detection host (s, occurrence)) := by
  cases occurrence with
  | happens event =>
    rw [state_happens]
    exact (rest_event host event s).1
  | detect =>
    obtain ⟨w, hdetect⟩ := currentPlatform_apply host s
    rw [state_detect, hdetect]
    rfl
  | useDirectory use =>
    cases hknown : s.1.directory with
    | some directory =>
      rw [Occurrence.act, (rest_withDirectory_of_ok (getDirectory_of_some hknown)).1,
        detection, hknown,
        Option.or_none]
    | none =>
      have hget : getDirectory host s = _ := getDirectory_of_none hknown
      have hrest := (rest_buildDirectory host .blank s).1
      rw [Occurrence.act, detection, hknown]
      rcases hbuild : buildDirectory host .blank s with ⟨fault | directory, t⟩
      · rw [hbuild] at hget hrest
        have hfails : withDirectory host use s = _ := Action.bind_error hget
        rw [hfails]
        exact hrest
      · rw [hbuild] at hget hrest
        rw [(rest_withDirectory_of_ok hget).1]
        exact hrest

/-- **One occurrence** finds out the agent's directory if it builds that, if none is known. -/
theorem Occurrence.directory_act (host : Host σ) (occurrence : Occurrence σ)
    (s : Agent × World σ) :
    (occurrence.act host s).2.1.directory.map Prod.fst
      = (s.1.directory.map Prod.fst).or (construction host (s, occurrence)) := by
  cases occurrence with
  | happens event =>
    rw [state_happens, (rest_event host event s).2]
    exact (Option.or_none).symm
  | detect =>
    obtain ⟨w, hdetect⟩ := currentPlatform_apply host s
    rw [state_detect, hdetect]
    exact (Option.or_none).symm
  | useDirectory use =>
    cases hknown : s.1.directory with
    | some directory =>
      rw [Occurrence.act, (rest_withDirectory_of_ok (getDirectory_of_some hknown)).2]
      rfl
    | none =>
      have hget : getDirectory host s = _ := getDirectory_of_none hknown
      have hrest := (rest_buildDirectory host .blank s).2
      rw [Occurrence.act, construction]
      rcases hbuild : buildDirectory host .blank s with ⟨fault | directory, t⟩
      · rw [hbuild] at hget hrest
        have hfails : withDirectory host use s = _ := Action.bind_error hget
        rw [hfails]
        exact congrArg (Option.map Prod.fst) (hrest.trans hknown)
      · rw [hbuild] at hget
        rw [(rest_withDirectory_of_ok hget).2]
        rfl

/-! ## Whole sessions -/

/-- **What each occurrence finds out if it is not known is the first thing that the session finds
out.** -/
theorem known_runSession {β : Type} (known : Agent → Option β)
    {found : (Agent × World σ) × Occurrence σ → Option β}
    (hact : ∀ (occurrence : Occurrence σ) (s : Agent × World σ),
      known (occurrence.act host s).2.1 = (known s.1).or (found (s, occurrence)))
    (s : Agent × World σ) (occurrences : List (Occurrence σ)) :
    known (runSession host s occurrences).1
      = (known s.1).or ((history host s occurrences).findSome? found) := by
  induction occurrences generalizing s with
  | nil => exact (Option.or_none).symm
  | cons occurrence rest ih =>
    -- what this occurrence finds comes before what the rest finds, and behind what was known
    rw [runSession, ih, hact, Option.or_assoc, history, List.findSome?_cons]
    cases found (s, occurrence) with
    | none => rfl
    | some b => rfl

/-- Each moment of a session is the state after what happened before. -/
theorem eq_runSession_of_history {occurrences : List (Occurrence σ)} {s moment : Agent × World σ}
    {occurrence : Occurrence σ} {earlier later : List ((Agent × World σ) × Occurrence σ)}
    (h : history host s occurrences = earlier ++ (moment, occurrence) :: later) :
    ∃ before, earlier = history host s before ∧ moment = runSession host s before := by
  induction occurrences generalizing s earlier with
  | nil => exact absurd h.symm (List.append_ne_nil_of_right_ne_nil _ (List.cons_ne_nil _ _))
  | cons first rest ih =>
    cases earlier with
    | nil =>
      refine ⟨[], rfl, ?_⟩
      exact (congrArg Prod.fst (List.cons.inj h).1).symm
    | cons entry earlier =>
      obtain ⟨rfl, hrest⟩ := List.cons.inj h
      obtain ⟨before, rfl, rfl⟩ := ih hrest
      exact ⟨first :: before, rfl, rfl⟩

/-! ## What a session settles -/

/-- A directory that is built behind some history is as requested: a platform that is not given is
the first one that was detected, be it for this very directory. -/
structure AsRequested (host : Host σ) (past : List ((Agent × World σ) × Occurrence σ))
    (s : Agent × World σ) (request : DirectoryRequest) (directory : Directory) : Prop where
  policy : PolicyAsRequested host s request directory.sudoEnable directory.database
  platform_given : ∀ given, request.platform = some given → directory.platform = given
  platform_detected : request.platform = none →
    (past ++ [(s, Occurrence.happens (.buildDirectory request))]).findSome? (detection host)
      = some directory.platform

/-- What building a directory finds of the platform is what a history says that counts this
building. -/
theorem platform_buildDirectory {past : List ((Agent × World σ) × Occurrence σ)}
    (hpast : s.1.platform = past.findSome? (detection host)) (request : DirectoryRequest) :
    (past ++ [(s, Occurrence.happens (.buildDirectory request))]).findSome? (detection host)
      = (buildDirectory host request s).2.1.platform := by
  rw [List.findSome?_append, List.findSome?_singleton, ← hpast,
    (rest_buildDirectory host request s).1]
  rfl

theorem asRequested_of_built {past : List ((Agent × World σ) × Occurrence σ)}
    (hpast : s.1.platform = past.findSome? (detection host)) {directory : Directory}
    {user : Option String} (h : buildDirectory host request s = (.ok (directory, user), t)) :
    AsRequested host past s request directory := by
  obtain ⟨policy, _, hpolicy, -, hsudo, hdatabase, hplatform⟩ :=
    buildDirectory_eq_ok_iff.mp ⟨t, h⟩
  refine ⟨?_, ?_, ?_⟩
  · rw [hsudo, hdatabase]
    exact policyAsRequested hpolicy
  · intro given hgiven
    rw [hgiven, Option.some_or] at hplatform
    exact (Option.some.inj hplatform).symm
  · intro hnone
    rw [hnone, Option.none_or] at hplatform
    rw [platform_buildDirectory hpast, hplatform]

/-- A directory is built just if there are settings for what its request leaves open, and a
platform. -/
theorem exists_built_iff {past : List ((Agent × World σ) × Occurrence σ)}
    (hpast : s.1.platform = past.findSome? (detection host)) (request : DirectoryRequest) :
    (∃ built t, buildDirectory host request s = (.ok built, t)) ↔
      (request.isOpen = true → ∃ settings, (getSettings host s).1 = .ok settings) ∧
        (request.platform = none →
          ∃ platform, (past ++ [(s, Occurrence.happens (.buildDirectory request))]).findSome?
            (detection host) = some platform) := by
  rw [← exists_policy_iff, platform_buildDirectory hpast]
  constructor
  · rintro ⟨⟨directory, user⟩, t, hbuild⟩
    obtain ⟨policy, t', hpolicy, -, -, -, hplatform⟩ :=
      buildDirectory_eq_ok_iff.mp ⟨t, hbuild⟩
    refine ⟨⟨policy, t', hpolicy⟩, fun hnone => ⟨directory.platform, ?_⟩⟩
    rwa [hnone, Option.none_or] at hplatform
  · rintro ⟨⟨policy, t, hpolicy⟩, hplatform⟩
    have hfound : ∃ platform,
        request.platform.or (buildDirectory host request s).2.1.platform = some platform := by
      cases hgiven : request.platform with
      | some given => exact ⟨given, rfl⟩
      | none => exact hplatform hgiven
    obtain ⟨platform, hfound⟩ := hfound
    obtain ⟨t', hbuild⟩ := exists_built hpolicy hfound
    exact ⟨_, t', hbuild⟩

/-! ## Settled sessions -/

/-- What is found out in a session. The platform is the first one that was detected, and the agent's
directory the first one that could be built for it. Every directory is as requested, and is built
whenever there is what it needs; one that leaves nothing open ignores the settings. A failure finds
out nothing, so that the next attempt starts afresh. What was found out never changes again,
whatever happens. -/
structure Settled (host : Host σ) (past : List ((Agent × World σ) × Occurrence σ))
    (s : Agent × World σ) : Prop where
  platform_eq : s.1.platform = past.findSome? (detection host)
  directory_eq : s.1.directory.map Prod.fst = past.findSome? (construction host)
  asRequested : ∀ request directory user t, buildDirectory host request s
    = (.ok (directory, user), t) →
    AsRequested host past s request directory
  returns : ∀ request : DirectoryRequest,
    (∃ built t, buildDirectory host request s = (.ok built, t)) ↔
    (request.isOpen = true → ∃ settings, (getSettings host s).1 = .ok settings) ∧
      (request.platform = none →
        ∃ platform, (past ++ [(s, Occurrence.happens (.buildDirectory request))]).findSome?
          (detection host) = some platform)
  closed : ∀ request : DirectoryRequest, request.isOpen = false → IgnoresSettings host s request
  fails : ∀ request fault t, buildDirectory host request s = (.error fault, t) →
    t.1.platform = s.1.platform ∧ t.1.directory = s.1.directory
  undetected : ∀ fault t, currentPlatform host s = (.error fault, t) →
    s.1.platform = none ∧ t.1 = s.1
  unbuilt : ∀ fault t, getDirectory host s = (.error fault, t) →
    s.1.directory = none ∧ t.1.directory = none ∧ t.1.platform = s.1.platform
  detectsAfresh : s.1.platform = none →
    (currentPlatform host s).1 = (host.systemName s.2.outside).1.map fun name =>
      Platform.classify (Platform.conventionalName name)
  buildsAfresh : s.1.directory = none → (getDirectory host s).1 = (buildDirectory host .blank s).1
  own : ∀ directory, s.1.directory.map Prod.fst = some directory → ∃ earlier moment use later,
    past = earlier ++ (moment, .useDirectory use) :: later ∧
      (∀ entry ∈ earlier, construction host entry = none) ∧
      AsRequested host earlier moment .blank directory
  serves : ∀ directory, s.1.directory = some directory →
    getDirectory host s = (.ok directory, s)
  platform_stays : ∀ platform, s.1.platform = some platform → ∀ later : List (Occurrence σ),
    (runSession host s later).1.platform = some platform
  directory_stays : ∀ directory, s.1.directory.map Prod.fst = some directory →
    ∀ later : List (Occurrence σ),
      (runSession host s later).1.directory.map Prod.fst = some directory

theorem platform_runSession (host : Host σ) (path : Path) (w : World σ)
    (occurrences : List (Occurrence σ)) :
    (runSession host (fresh path, w) occurrences).1.platform
      = (history host (fresh path, w) occurrences).findSome? (detection host) := by
  rw [known_runSession Agent.platform (Occurrence.platform_act host)]
  rfl

theorem directory_runSession (host : Host σ) (path : Path) (w : World σ)
    (occurrences : List (Occurrence σ)) :
    (runSession host (fresh path, w) occurrences).1.directory.map Prod.fst
      = (history host (fresh path, w) occurrences).findSome? (construction host) := by
  rw [known_runSession (fun agent => agent.directory.map Prod.fst)
    (Occurrence.directory_act host)]
  rfl

/-- The agent's directory was built by the first use of it that could do so, as it was requested
then. -/
theorem exists_first_use {path : Path} {w : World σ} {occurrences : List (Occurrence σ)}
    {directory : Directory}
    (h : (runSession host (fresh path, w) occurrences).1.directory.map Prod.fst = some directory) :
    ∃ earlier moment use later,
      history host (fresh path, w) occurrences = earlier ++ (moment, .useDirectory use) :: later ∧
        (∀ entry ∈ earlier, construction host entry = none) ∧
        AsRequested host earlier moment .blank directory := by
  rw [directory_runSession] at h
  obtain ⟨earlier, ⟨moment, occurrence⟩, later, hpast, hbuilt, hearlier⟩ :=
    List.findSome?_eq_some_iff.mp h
  cases occurrence with
  | happens | detect => cases hbuilt
  | useDirectory use =>
    refine ⟨earlier, moment, use, later, hpast, hearlier, ?_⟩
    -- the moment is a state of the session itself, so its platform is told by what happened before
    obtain ⟨before, rfl, rfl⟩ := eq_runSession_of_history hpast
    obtain ⟨⟨built, user⟩, hok, rfl⟩ := Option.map_eq_some_iff.mp hbuilt
    rcases hbuild : buildDirectory host .blank (runSession host (fresh path, w) before)
      with ⟨fault | built', t⟩
    · rw [hbuild] at hok
      cases hok
    · rw [hbuild] at hok
      cases hok
      exact asRequested_of_built (platform_runSession host path w before) hbuild

/-- **After any session directories come from one place and then stay fixed.** -/
theorem runSession_settled (host : Host σ) (path : Path) (w : World σ)
    (occurrences : List (Occurrence σ)) :
    Settled host (history host (fresh path, w) occurrences)
      (runSession host (fresh path, w) occurrences) where
  platform_eq := platform_runSession host path w occurrences
  directory_eq := directory_runSession host path w occurrences
  asRequested := fun _ _ _ _ hbuild =>
    asRequested_of_built (platform_runSession host path w occurrences) hbuild
  returns := exists_built_iff (platform_runSession host path w occurrences)
  closed := fun _ hclosed => ignoresSettings_of_closed hclosed host _
  fails := fun _ _ _ => rest_of_buildDirectory_error
  undetected := fun _ _ => of_currentPlatform_error
  unbuilt := fun _ _ => of_getDirectory_error
  detectsAfresh := by
    intro hunknown
    obtain ⟨w', hdetect⟩ := currentPlatform_apply host
        (runSession host (fresh path, w) occurrences)
    rw [hdetect, hunknown]
    rfl
  buildsAfresh := by
    intro hunknown
    rw [getDirectory_of_none hunknown]
    rcases buildDirectory host .blank (runSession host (fresh path, w) occurrences)
      with ⟨fault | directory, t⟩
    · rfl
    · rfl
  own := fun _ => exists_first_use
  serves := fun _ => getDirectory_of_some
  platform_stays := by
    intro platform hknown later
    rw [known_runSession Agent.platform (Occurrence.platform_act host), hknown]
    rfl
  directory_stays := by
    intro directory hknown later
    rw [known_runSession (fun agent => agent.directory.map Prod.fst)
      (Occurrence.directory_act host), hknown]
    rfl

end TenantHost.Agent
