import TenantHost.Proofs.Agent.Events
/-!
# Building a directory

A directory takes what its request leaves open from the settings of the agent and from its platform,
which are found out when they are needed first. So building one comes down to asking for the
settings, and then for the platform; either may fail, and a failure finds out no platform. The
agent's own directory is built by its first use, and kept.
-/

namespace TenantHost.Agent

variable {σ : Type} {host : Host σ} {request : DirectoryRequest} {s t : Agent × World σ}

/-! ## Detecting the platform -/

/-- The platform of an agent, from what it knows or else from the name of the host's system. -/
def platformFrom (host : Host σ) (known : Option Platform) (outside : σ) :
    Except Fault Platform :=
  match known with
  | some platform => .ok platform
  | none =>
    (host.systemName outside).1.map fun name => Platform.classify (Platform.conventionalName name)

/-- The platform that a detection finds, if it does not fail. -/
def detected (host : Host σ) (outside : σ) : Option Platform :=
  (platformFrom host none outside).toOption

theorem toOption_platformFrom (host : Host σ) (known : Option Platform) (outside : σ) :
    (platformFrom host known outside).toOption = known.or (detected host outside) := by
  cases known with
  | none => rfl
  | some platform => rfl

/-- **The platform is found out at its first use**, and is all that is found out. -/
theorem currentPlatform_apply (host : Host σ) (s : Agent × World σ) :
    ∃ w, currentPlatform host s
      = (platformFrom host s.1.platform s.2.outside,
          ({ s.1 with platform := s.1.platform.or (detected host s.2.outside) }, w)) := by
  -- field by field, as the platform is both looked at and replaced
  rcases s with ⟨⟨path, settings, loads, platform, directory, ready⟩, w⟩
  cases platform with
  | some platform => exact ⟨w, rfl⟩
  | none =>
    rcases hname : host.systemName w.outside with ⟨fault | name, o⟩ <;>
      simp [currentPlatform, systemName, detected, platformFrom, hname]

/-! ## Building a directory -/

/-- The account policy that a request leaves under some settings. -/
def DirectoryRequest.policy (request : DirectoryRequest) (settings : Settings) : AccountPolicy :=
  ⟨request.sudoEnable.getD settings.accounts.sudoEnable,
    request.database.getD settings.accounts.database⟩

theorem accountPolicy_apply_of_open (host : Host σ) (h : request.isOpen = true)
    (s : Agent × World σ) :
    accountPolicy host request s
      = ((getSettings host s).1.map request.policy, (getSettings host s).2) := by
  rw [accountPolicy_of_open host h]
  rcases hget : getSettings host s with ⟨fault | settings, t⟩ <;>
    simp [hget, DirectoryRequest.policy]

/-- A request that is not open gives the whole policy, whatever the host. -/
theorem given_of_closed (h : request.isOpen = false) :
    ∃ sudoEnable database, request.sudoEnable = some sudoEnable ∧
      request.database = some database ∧
      ∀ host : Host σ, accountPolicy host request = pure ⟨sudoEnable, database⟩ := by
  rcases request with ⟨platform, _ | database, _ | sudoEnable, currentUser⟩
  · cases h
  · cases h
  · cases h
  · exact ⟨sudoEnable, database, rfl, rfl, fun _ => rfl⟩

theorem rest_getSettings (host : Host σ) (s : Agent × World σ) :
    (getSettings host s).2.1.platform = s.1.platform ∧
      (getSettings host s).2.1.directory = s.1.directory := by
  cases hknown : s.1.settings with
  | some settings =>
    rw [getSettings_of_some host hknown]
    exact ⟨rfl, rfl⟩
  | none =>
    rw [getSettings_of_none host hknown]
    rcases Settings.load host s.1.settingsPath s.2 with ⟨fault | settings, w⟩
    · exact ⟨rfl, rfl⟩
    · exact ⟨rfl, rfl⟩

theorem rest_accountPolicy (host : Host σ) (request : DirectoryRequest) (s : Agent × World σ) :
    (accountPolicy host request s).2.1.platform = s.1.platform ∧
      (accountPolicy host request s).2.1.directory = s.1.directory := by
  cases h : request.isOpen with
  | true =>
    rw [accountPolicy_apply_of_open host h]
    exact rest_getSettings host s
  | false =>
    obtain ⟨sudoEnable, database, -, -, hpolicy⟩ := given_of_closed (σ := σ) h
    rw [hpolicy host]
    exact ⟨rfl, rfl⟩

/-- The platform that is detected for a request, if one is asked for and the detection does not
fail. -/
def DirectoryRequest.detected (request : DirectoryRequest) (host : Host σ) (outside : σ) :
    Option Platform :=
  match request.platform with
  | some _ => none
  | none => Agent.detected host outside

theorem exists_noteStrategy_bind (platform : Platform) (built : Directory × Option String)
    (s : Agent × World σ) :
    ∃ w, ((platform.noteStrategy).onSecond >>= fun _ => pure built : AgentAction σ _) s
      = (.ok built, (s.1, w)) :=
  ⟨_, rfl⟩

/-- **Once its policy is known a directory needs a platform**, which is all that is found out
then. -/
theorem buildDirectory_of_policy {policy : AccountPolicy}
    (h : accountPolicy host request s = (.ok policy, t)) :
    ∃ w, buildDirectory host request s
      = ((platformFrom host (request.platform.or t.1.platform) t.2.outside).map fun platform =>
            (⟨platform, policy.sudoEnable, policy.database⟩, request.currentUser),
          ({ t.1 with platform := t.1.platform.or (request.detected host t.2.outside) }, w)) := by
  rw [buildDirectory, Action.bind_ok h, DirectoryRequest.detected]
  cases request.platform with
  | some platform =>
    obtain ⟨w, hnote⟩ := exists_noteStrategy_bind platform
      (⟨platform, policy.sudoEnable, policy.database⟩, request.currentUser) t
    refine ⟨w, hnote.trans ?_⟩
    rw [Option.or_none]
    rfl
  | none =>
    obtain ⟨w, hdetect⟩ := currentPlatform_apply host t
    rw [Option.none_or]
    rcases hplatform : platformFrom host t.1.platform t.2.outside with fault | platform
    · rw [hplatform] at hdetect
      exact ⟨w, Action.bind_error hdetect⟩
    · rw [hplatform] at hdetect
      obtain ⟨w', hnote⟩ := exists_noteStrategy_bind platform
        (⟨platform, policy.sudoEnable, policy.database⟩, request.currentUser)
        ({ t.1 with platform := t.1.platform.or (detected host t.2.outside) }, w)
      exact ⟨w', (Action.bind_ok hdetect).trans hnote⟩

theorem buildDirectory_of_policy_error {fault : Fault}
    (h : accountPolicy host request s = (.error fault, t)) :
    buildDirectory host request s = (.error fault, t) :=
  Action.bind_error h

/-- The platform that building a directory detects, if it gets that far and does not know it
already. -/
def detectedFor (host : Host σ) (request : DirectoryRequest) (s : Agent × World σ) :
    Option Platform :=
  match accountPolicy host request s with
  | (.ok _, t) => request.detected host t.2.outside
  | (.error _, _) => none

/-- Building a directory finds out the platform if it detects one, and leaves the agent's directory
alone. -/
theorem rest_buildDirectory (host : Host σ) (request : DirectoryRequest) (s : Agent × World σ) :
    (buildDirectory host request s).2.1.platform = s.1.platform.or (detectedFor host request s) ∧
      (buildDirectory host request s).2.1.directory = s.1.directory := by
  obtain ⟨hplatform, hdirectory⟩ := rest_accountPolicy host request s
  rw [detectedFor]
  rcases hpolicy : accountPolicy host request s with ⟨fault | policy, t⟩
  · rw [hpolicy] at hplatform hdirectory
    rw [buildDirectory_of_policy_error hpolicy]
    exact ⟨hplatform.trans (Option.or_none).symm, hdirectory⟩
  · rw [hpolicy] at hplatform hdirectory
    obtain ⟨w, hbuild⟩ := buildDirectory_of_policy hpolicy
    rw [hbuild]
    exact ⟨congrArg (Option.or · _) hplatform, hdirectory⟩

/-! ## What was requested -/

/-- A policy is as requested: what is given is taken as it is, and the rest from the settings that
the agent gives to whoever asks. -/
structure PolicyAsRequested (host : Host σ) (s : Agent × World σ) (request : DirectoryRequest)
    (sudoEnable : Bool) (database : Path) : Prop where
  sudoEnable_given : ∀ given, request.sudoEnable = some given → sudoEnable = given
  database_given : ∀ given, request.database = some given → database = given
  settings : request.isOpen = true → ∃ settings, (getSettings host s).1 = .ok settings ∧
    (request.sudoEnable = none → sudoEnable = settings.accounts.sudoEnable) ∧
    (request.database = none → database = settings.accounts.database)

theorem policyAsRequested {policy : AccountPolicy}
    (h : accountPolicy host request s = (.ok policy, t)) :
    PolicyAsRequested host s request policy.sudoEnable policy.database := by
  cases hopen : request.isOpen with
  | true =>
    rw [accountPolicy_apply_of_open host hopen] at h
    rcases hget : (getSettings host s).1 with fault | settings
    · rw [hget] at h
      cases h
    · rw [hget] at h
      obtain rfl : request.policy settings = policy := Except.ok.inj (Prod.mk.inj h).1
      refine ⟨?_, ?_, fun _ => ⟨settings, hget, ?_, ?_⟩⟩
      · intro given hgiven
        rw [DirectoryRequest.policy, hgiven, Option.getD_some]
      · intro given hgiven
        rw [DirectoryRequest.policy, hgiven, Option.getD_some]
      · intro hnone
        rw [DirectoryRequest.policy, hnone, Option.getD_none]
      · intro hnone
        rw [DirectoryRequest.policy, hnone, Option.getD_none]
  | false =>
    obtain ⟨sudoEnable, database, hsudo, hdatabase, hpolicy⟩ := given_of_closed (σ := σ) hopen
    rw [hpolicy host] at h
    obtain rfl : ⟨sudoEnable, database⟩ = policy := Except.ok.inj (Prod.mk.inj h).1
    refine ⟨?_, ?_, fun h => by rw [hopen] at h; cases h⟩
    · intro given hgiven
      exact Option.some.inj (hsudo.symm.trans hgiven)
    · intro given hgiven
      exact Option.some.inj (hdatabase.symm.trans hgiven)

/-- There is a policy just if the settings are given to one who has to ask for them. -/
theorem exists_policy_iff :
    (∃ policy t, accountPolicy host request s = (.ok policy, t)) ↔
      (request.isOpen = true → ∃ settings, (getSettings host s).1 = .ok settings) := by
  cases hopen : request.isOpen with
  | true =>
    rw [accountPolicy_apply_of_open host hopen]
    constructor
    · rintro ⟨policy, t, hpolicy⟩ -
      rcases hget : (getSettings host s).1 with fault | settings
      · rw [hget] at hpolicy
        cases hpolicy
      · exact ⟨settings, rfl⟩
    · intro hsettings
      obtain ⟨settings, hget⟩ := hsettings rfl
      rw [hget]
      exact ⟨_, _, rfl⟩
  | false =>
    obtain ⟨sudoEnable, database, -, -, hpolicy⟩ := given_of_closed (σ := σ) hopen
    rw [hpolicy host]
    exact iff_of_true ⟨_, s, rfl⟩ (fun h => nomatch h)

theorem toOption_platformFrom_request (host : Host σ) (request : DirectoryRequest)
    (known : Option Platform) (outside : σ) :
    (platformFrom host (request.platform.or known) outside).toOption
      = request.platform.or (known.or (request.detected host outside)) := by
  rw [DirectoryRequest.detected]
  cases request.platform with
  | some platform => rfl
  | none => exact toOption_platformFrom host known outside

/-- **With a policy a directory is built just if its platform is given or known then.** -/
theorem buildDirectory_eq_ok_iff {directory : Directory} {user : Option String} :
    (∃ t, buildDirectory host request s = (.ok (directory, user), t)) ↔
      ∃ policy t, accountPolicy host request s = (.ok policy, t) ∧
        user = request.currentUser ∧
        directory.sudoEnable = policy.sudoEnable ∧ directory.database = policy.database ∧
        request.platform.or (buildDirectory host request s).2.1.platform
          = some directory.platform := by
  rcases hpolicy : accountPolicy host request s with ⟨fault | policy, t⟩
  · rw [buildDirectory_of_policy_error hpolicy]
    constructor
    · rintro ⟨_, hok⟩
      cases hok
    · rintro ⟨_, _, hok, -⟩
      cases hok
  · obtain ⟨w, hbuild⟩ := buildDirectory_of_policy hpolicy
    rw [hbuild]
    show _ ↔ ∃ _ _, _ ∧ _ ∧ _ ∧ _ ∧ request.platform.or (t.1.platform.or _) = _
    rw [← toOption_platformFrom_request]
    rcases platformFrom host (request.platform.or t.1.platform) t.2.outside with fault | platform
    · constructor
      · rintro ⟨_, hok⟩
        cases hok
      · rintro ⟨_, _, -, -, -, -, hnone⟩
        cases hnone
    · constructor
      · rintro ⟨_, hok⟩
        cases hok
        exact ⟨policy, t, rfl, rfl, rfl, rfl, rfl⟩
      · rintro ⟨_, _, hok, rfl, hsudo, hdatabase, hplatform⟩
        cases hok
        obtain ⟨_, _, _⟩ := directory
        cases hsudo
        cases hdatabase
        cases hplatform
        exact ⟨_, rfl⟩

theorem exists_built {policy : AccountPolicy} (h : accountPolicy host request s = (.ok policy, t))
    {platform : Platform}
    (hplatform : request.platform.or (buildDirectory host request s).2.1.platform = some platform) :
    ∃ t', buildDirectory host request s
      = (.ok (⟨platform, policy.sudoEnable, policy.database⟩, request.currentUser), t') :=
  buildDirectory_eq_ok_iff.mpr ⟨policy, t, h, rfl, rfl, rfl, hplatform⟩

/-! ## Requests that leave nothing open -/

/-- Building a directory leaves the settings alone, and files do not matter to it. -/
structure IgnoresSettings (host : Host σ) (s : Agent × World σ) (request : DirectoryRequest) :
    Prop where
  settings : (buildDirectory host request s).2.1.settings = s.1.settings
  settingsPath : (buildDirectory host request s).2.1.settingsPath = s.1.settingsPath
  loads : (buildDirectory host request s).2.1.loads = s.1.loads
  files : ∀ fileExists readFile cpuCount,
    buildDirectory (host.withFiles fileExists readFile cpuCount) request s
      = buildDirectory host request s

theorem ignoresSettings_of_closed (h : request.isOpen = false) (host : Host σ)
    (s : Agent × World σ) :
    IgnoresSettings host s request := by
  obtain ⟨sudoEnable, database, -, -, hpolicy⟩ := given_of_closed (σ := σ) h
  have hpure : accountPolicy host request s = (.ok ⟨sudoEnable, database⟩, s) := by
    rw [hpolicy host]
    rfl
  obtain ⟨w, hbuild⟩ := buildDirectory_of_policy hpure
  refine ⟨by rw [hbuild], by rw [hbuild], by rw [hbuild], ?_⟩
  intro fileExists readFile cpuCount
  unfold buildDirectory
  rw [hpolicy host, hpolicy (host.withFiles fileExists readFile cpuCount)]
  rfl

/-! ## The agent's directory -/

/-- The request of the agent's own directory, which leaves everything open. -/
def DirectoryRequest.blank : DirectoryRequest :=
  ⟨none, none, none, none⟩

theorem getDirectory_of_some {directory : Directory × Option String}
    (h : s.1.directory = some directory) : getDirectory host s = (.ok directory, s) := by
  simp [getDirectory, h]

/-- A directory that is not known is built, and kept if that succeeds. -/
theorem getDirectory_of_none (h : s.1.directory = none) :
    getDirectory host s
      = match buildDirectory host .blank s with
        | (.ok directory, t) => (.ok directory, ({ t.1 with directory := some directory }, t.2))
        | (.error fault, t) => (.error fault, t) := by
  have hblank : (⟨none, none, none, none⟩ : DirectoryRequest) = .blank := rfl
  rcases hbuild : buildDirectory host .blank s with ⟨fault | directory, t⟩ <;>
    simp [getDirectory, h, hblank, hbuild]

/-- The use of a directory that is known leaves it as it is, but for what it learns about the
current user. -/
theorem rest_withDirectory_of_ok {α : Type} {use : Directory → DirectoryAction σ α}
    {directory : Directory × Option String} (h : getDirectory host s = (.ok directory, t)) :
    (withDirectory host use s).2.1.platform = t.1.platform ∧
      (withDirectory host use s).2.1.directory.map Prod.fst = some directory.1 := by
  rw [withDirectory, Action.bind_ok h]
  exact ⟨rfl, rfl⟩

/-! ## Failures -/

/-- Where building a directory fails nothing is found out but maybe the settings. -/
theorem rest_of_buildDirectory_error {fault : Fault}
    (h : buildDirectory host request s = (.error fault, t)) :
    t.1.platform = s.1.platform ∧ t.1.directory = s.1.directory := by
  have hrest := rest_buildDirectory host request s
  rcases hpolicy : accountPolicy host request s with ⟨fault' | policy, t'⟩
  · have hfails := buildDirectory_of_policy_error hpolicy
    have hkept := rest_accountPolicy host request s
    rw [hpolicy] at hkept
    rw [h] at hfails
    obtain rfl : t = t' := (Prod.mk.inj hfails).2
    exact hkept
  · rw [h] at hrest
    refine ⟨?_, hrest.2⟩
    -- a platform that is found would be that of a directory that is built
    have hnone : t.1.platform = none := by
      rcases hfound : request.platform.or t.1.platform with _ | platform
      · exact (Option.or_eq_none_iff.mp hfound).2
      · have hplatform : request.platform.or (buildDirectory host request s).2.1.platform
            = some platform := by
          rw [h]
          exact hfound
        obtain ⟨_, hbuilt⟩ := exists_built hpolicy hplatform
        rw [h] at hbuilt
        cases hbuilt
    have hboth := Option.or_eq_none_iff.mp (hrest.1.symm.trans hnone)
    rw [hnone, hboth.1]

/-- Where a detection fails nothing at all is found out. -/
theorem of_currentPlatform_error {fault : Fault} (h : currentPlatform host s = (.error fault, t)) :
    s.1.platform = none ∧ t.1 = s.1 := by
  obtain ⟨w, hdetect⟩ := currentPlatform_apply host s
  rw [h] at hdetect
  obtain ⟨houtcome, rfl⟩ := Prod.mk.inj hdetect
  have hnone := toOption_platformFrom host s.1.platform s.2.outside
  rw [← houtcome] at hnone
  have hunknown := (Option.or_eq_none_iff.mp hnone.symm).1
  refine ⟨hunknown, ?_⟩
  show ({ s.1 with platform := s.1.platform.or (detected host s.2.outside) } : Agent) = s.1
  rw [← hnone]
  show ({ s.1 with platform := none } : Agent) = s.1
  rw [← hunknown]

/-- Where the agent's directory cannot be built it stays unknown, and so does the platform if it
was. -/
theorem of_getDirectory_error {fault : Fault} (h : getDirectory host s = (.error fault, t)) :
    s.1.directory = none ∧ t.1.directory = none ∧ t.1.platform = s.1.platform := by
  cases hknown : s.1.directory with
  | some directory =>
    rw [getDirectory_of_some hknown] at h
    cases h
  | none =>
    rw [getDirectory_of_none hknown] at h
    rcases hbuild : buildDirectory host .blank s with ⟨fault' | directory, t'⟩
    · rw [hbuild] at h
      cases h
      obtain ⟨hplatform, hdirectory⟩ := rest_of_buildDirectory_error hbuild
      exact ⟨rfl, hdirectory.trans hknown, hplatform⟩
    · rw [hbuild] at h
      cases h

end TenantHost.Agent
