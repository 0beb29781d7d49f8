import TenantHost.Proofs.Account.Mirroring
import TenantHost.Proofs.Account.Provisioning
/-!
# Looking up the current user

Only a Windows host asks for the group of an account by the name of the current user, and yet the
name is looked up on every host, before the group command. So on the others two lookups cannot be
told apart by the names that they find, but one that fails can be told from one that does not: no
command is run behind it.
-/

namespace TenantHost

open TenantHost.Action (InStep)

variable {σ α : Type}

/-- A host on which the name of the current user is looked up in a certain way. A lookup reads the
outside only. -/
def Host.withLookup (host : Host σ) (lookup : σ → Except Fault String) : Host σ :=
  { host with userName := fun o => (lookup o, o) }

namespace Directory

/-- That two runs come to the same outcome and have handed over the same commands. -/
def Agree (run other : Except Fault α × (Option String × World σ)) : Prop :=
  run.1 = other.1 ∧ run.2.2.calls = other.2.2.calls

theorem Agree.symm {run other : Except Fault α × (Option String × World σ)}
    (h : Agree run other) :
    Agree other run :=
  ⟨h.1.symm, h.2.symm⟩

/-! ## Worlds that differ in the journal -/

/-- Worlds that differ in nothing but the journal. -/
def SameButJournal (w w' : World σ) : Prop :=
  w.outside = w'.outside ∧ w.calls = w'.calls

theorem pairing_sameButJournal (host : Host σ) (party : List String → Action σ String) :
    Pairing SameButJournal (host.withParty party) none none where
  execute argv := by
    rintro ⟨o, journal, calls⟩ ⟨o', journal', calls'⟩ ⟨rfl, rfl⟩
    exact ⟨rfl, rfl, rfl⟩
  names := by
    rintro ⟨o, journal, calls⟩ ⟨o', journal', calls'⟩ ⟨rfl, rfl⟩
    exact ⟨rfl, rfl, rfl⟩
  reads path := by
    rintro ⟨o, journal, calls⟩ ⟨o', journal', calls'⟩ ⟨rfl, rfl⟩
    exact ⟨rfl, rfl, rfl⟩
  write line _ := fun _ _ h => ⟨rfl, h⟩
  log level text about := fun _ _ h => ⟨rfl, h⟩

/-- What is done in the second halves of states goes in step whatever stands in the first ones. -/
theorem onSecond_inStep {R : World σ → World σ → Prop} {act other : Action (World σ) α}
    (h : InStep R act other) :
    InStep (fun s t : Option String × World σ => R s.2 t.2) act.onSecond other.onSecond :=
  fun s t hst => h s.2 t.2 hst

section Creating

variable {directory : Directory} {host : Host σ} {party : List String → Action σ String}
  (user : String) {s : Option String × World σ} {known : Option String} {w : World σ}

/-- Without a group no account is created, and no more commands are handed over. -/
theorem createUser_of_requireGroup_error {fault : Fault}
    (h : directory.requireGroup host none s = (.error fault, (known, w))) :
    ∃ journal, directory.createUser host user none s = (.ok false,
      (known, { w with journal })) := by
  obtain ⟨journal, hrun⟩ := directory.provision_of_requireGroup_error user accepting_none h
  exact ⟨journal, createUser_of_provision hrun⟩

theorem provisionIn_inStep (directory : Directory) (party : List String → Action σ String)
    (user group : String) :
    InStep (fun s t : Option String × World σ => SameButJournal s.2 t.2)
      (directory.provisionIn (.ofParty party) none user group)
      (directory.provisionIn (.ofParty party) none user group) := by
  have pairing := pairing_sameButJournal (Host.ofUser "") party
  refine (onSecond_inStep (pairing.log .info _ none)).bind fun _ => ?_
  refine (onSecond_inStep (pairing.runSteps user _)).bind fun outcomes => ?_
  exact (onSecond_inStep (pairing.notePartial _)).bind fun _ => .pure _

/-- Whether an account was created is told by the report, so runs agree on it if they agree on
that. -/
theorem createUser_agree_of_provision {host' : Host σ} {t : Option String × World σ}
    (h : Agree (directory.provision host user none s) (directory.provision host' user none t)) :
    Agree (directory.createUser host user none s) (directory.createUser host' user none t) := by
  rcases hrun : directory.provision host user none s with ⟨outcome, left⟩
  rcases hrun' : directory.provision host' user none t with ⟨outcome', left'⟩
  rw [hrun, hrun'] at h
  obtain ⟨rfl, hcalls⟩ := h
  have hcreate : directory.createUser host user none s = _ :=
    Action.bind_ok (Action.attempt_of hrun)
  have hcreate' : directory.createUser host' user none t = _ :=
    Action.bind_ok (Action.attempt_of hrun')
  rw [hcreate, hcreate']
  cases outcome with
  | ok report => exact ⟨rfl, hcalls⟩
  | error fault => exact ⟨rfl, hcalls⟩

/-- **Runs that find the same group agree**, if they find it in worlds that differ in nothing but
the journal. -/
theorem createUser_agree_of_group {host' : Host σ} {t : Option String × World σ}
    {known' : Option String} {w' : World σ} {group : String}
    (h : directory.requireGroup (host.withParty party) none s = (.ok group, (known, w)))
    (h' : directory.requireGroup (host'.withParty party) none t = (.ok group, (known', w')))
    (hsame : SameButJournal w w') :
    Agree (directory.createUser (host.withParty party) user none s)
      (directory.createUser (host'.withParty party) user none t) := by
  have hleft : directory.provision (host.withParty party) user none s
      = directory.provisionIn (.ofParty party) none user group (known, w) :=
        directory.provision_of_group user h
  have hright : directory.provision (host'.withParty party) user none t
      = directory.provisionIn (.ofParty party) none user group (known', w') :=
        directory.provision_of_group user h'
  obtain ⟨houtcome, -, hcalls⟩ :=
    directory.provisionIn_inStep party user group (known, w) (known', w') hsame
  rw [← hleft, ← hright] at houtcome hcalls
  exact createUser_agree_of_provision user ⟨houtcome, hcalls⟩

end Creating

/-! ## Where the name does not matter -/

/-- The group that a list of groups names: its first word. -/
def firstWord (output : String) : String :=
  String.ofList ((Text.words output.toList).head?.getD [])

section Elsewhere

variable {directory : Directory} (hplatform : directory.platform ≠ .windows) {host : Host σ}
  (party : List String → Action σ String) {s : Option String × World σ} {o : σ}
include hplatform

/-- The group is the first word of what the group command gives, whatever the name of the current
user. -/
theorem resolveGroup_elsewhere {name : String} (h : identify host s.1 s.2.outside = (.ok name, o)) :
    directory.resolveGroup (host.withParty party) none s
      = (((party ["groups"] o).1.mapError (Executor.surfaced ["groups"])).map firstWord,
          (some name, ⟨(party ["groups"] o).2,
            s.2.journal ++ Executor.reported ["groups"] (party ["groups"] o).1,
            s.2.calls ++ [["groups"]]⟩)) := by
  have hparse : ∀ output, directory.platform.parseGroup output = .ok (firstWord output) := by
    intro output
    cases hkind : directory.platform with
    | windows => exact absurd hkind hplatform
    | linux | macos | other => rfl
  have hrun := Executor.runLine_ofParty party (rfl : _ = directory.platform.groupArgv name)
    (directory.platform.groupArgv_ne_nil name) { s.2 with outside := o }
  rw [Platform.groupArgv_of_ne_windows hplatform] at hrun
  rw [← identify_withParty host party] at h
  have hask : (host.withParty party).execute = .ofParty party := rfl
  rcases hanswer : party ["groups"] o with ⟨fault | output, after⟩ <;> rw [hanswer] at hrun <;>
    simp [resolveGroup, currentUser_apply h, hask, hrun, hparse]

/-- Runs that know a name of the current user agree on the group, be it another name. -/
theorem resolveGroup_agree_of_names {host' : Host σ} {t : Option String × World σ}
    {name name' : String} (h : identify host s.1 s.2.outside = (.ok name, o))
    (h' : identify host' t.1 t.2.outside = (.ok name', o)) (hcalls : s.2.calls = t.2.calls) :
    Agree (directory.resolveGroup (host.withParty party) none s)
      (directory.resolveGroup (host'.withParty party) none t) := by
  rw [resolveGroup_elsewhere hplatform party h, resolveGroup_elsewhere hplatform party h', hcalls]
  exact ⟨rfl, rfl⟩

/-- Runs that know a name of the current user agree on the creation of an account, be it another
name. -/
theorem createUser_agree_of_names {host' : Host σ} {t : Option String × World σ}
    {name name' : String} (user : String) (h : identify host s.1 s.2.outside = (.ok name, o))
    (h' : identify host' t.1 t.2.outside = (.ok name', o)) (hcalls : s.2.calls = t.2.calls) :
    Agree (directory.createUser (host.withParty party) user none s)
      (directory.createUser (host'.withParty party) user none t) := by
  obtain ⟨outcome, journal, hgroup, hnamed⟩ :=
    requireGroup_of_known directory party accepting_none h
  obtain ⟨outcome', journal', hgroup', hnamed'⟩ :=
    requireGroup_of_known directory party accepting_none h'
  rw [Platform.groupArgv_of_ne_windows hplatform] at hgroup hnamed hgroup' hnamed'
  -- both ask for the same command, so that both find the same group, or none
  rw [← hnamed'] at hnamed
  rcases outcome with fault | group <;> rcases outcome' with fault' | group'
  · obtain ⟨noted, hrun⟩ := createUser_of_requireGroup_error user hgroup
    obtain ⟨noted', hrun'⟩ := createUser_of_requireGroup_error user hgroup'
    rw [hrun, hrun', hcalls]
    exact ⟨rfl, rfl⟩
  · cases hnamed
  · cases hnamed
  · obtain rfl : group = group' := Option.some.inj hnamed
    exact createUser_agree_of_group user hgroup hgroup' ⟨rfl, by rw [hcalls]⟩

end Elsewhere

/-! ## Lookups that fail -/

section Failing

variable {directory : Directory} {host : Host σ} (party : List String → Action σ String)
  {s : Option String × World σ} {o : σ}

/-- Without a name of the current user the group is not asked for. -/
theorem resolveGroup_of_unknown {fault : Fault}
    (h : identify host s.1 s.2.outside = (.error fault, o)) :
    directory.resolveGroup (host.withParty party) none s
      = (.error fault, (none, { s.2 with outside := o })) := by
  rw [← identify_withParty host party] at h
  simp [resolveGroup, currentUser_apply h]

/-- Without a name of the current user no account is created, and no command is handed over. -/
theorem createUser_of_unknown (user : String) {fault : Fault}
    (h : identify host s.1 s.2.outside = (.error fault, o)) :
    ∃ journal, directory.createUser (host.withParty party) user none s
      = (.ok false, (none, ⟨o, journal, s.2.calls⟩)) :=
  createUser_of_requireGroup_error user (requireGroup_of_unknown directory party h)

/-- With a name a command is handed over, whatever comes of it. -/
theorem calls_createUser_ne (user : String) {name : String}
    (h : identify host s.1 s.2.outside = (.ok name, o)) :
    (directory.createUser (host.withParty party) user none s).2.2.calls ≠ s.2.calls := by
  obtain ⟨attempt, known, journal, ending, hrun, -, -, -, hname, hends⟩ :=
    provision_apply directory host party user accepting_none s
  rw [createUser_of_provision hrun]
  show s.2.calls ++ attempt.calls ≠ s.2.calls
  rw [Ne, List.append_right_eq_self]
  rw [h] at hname
  have hknown : attempt.name = .ok name := (congrArg Prod.fst hname).symm
  cases ending with
  | groupless =>
    rcases hends.asked with ⟨⟨fault, hfault⟩, -⟩ | ⟨argv, answer, -, hcalls, -⟩
    · rw [hknown] at hfault
      cases hfault
    · rw [hcalls]
      exact List.cons_ne_nil _ _
  | complete =>
    obtain ⟨argvs, middle, hplanned, -⟩ := hends
    obtain ⟨argv, answer, -, hcalls, -⟩ := hplanned.asked
    rw [hcalls]
    exact List.cons_ne_nil _ _
  | stopped place =>
    obtain ⟨argvs, middle, hplanned, -⟩ := hends
    obtain ⟨argv, answer, -, hcalls, -⟩ := hplanned.asked
    rw [hcalls]
    exact List.cons_ne_nil _ _

end Failing

/-! ## Telling lookups apart -/

/-- A fresh directory's way to the group, on a host with a lookup. -/
def resolveWith (directory : Directory) (host : Host σ) (party : List String → Action σ String)
    (w : World σ) (lookup : σ → Except Fault String) :
    Except Fault String × (Option String × World σ) :=
  directory.resolveGroup ((host.withLookup lookup).withParty party) none (none, w)

/-- A fresh directory's way to an account, on a host with a lookup. -/
def createWith (directory : Directory) (host : Host σ) (party : List String → Action σ String)
    (user : String) (w : World σ) (lookup : σ → Except Fault String) :
    Except Fault Bool × (Option String × World σ) :=
  directory.createUser ((host.withLookup lookup).withParty party) user none (none, w)

section Telling

variable {directory : Directory} {host : Host σ} {party : List String → Action σ String}
  {w : World σ}
  {lookup other : σ → Except Fault String}

theorem identify_withLookup {outcome : Except Fault String} (h : lookup w.outside = outcome) :
    identify (host.withLookup lookup) none w.outside = (outcome, w.outside) :=
  Prod.ext h rfl

/-- Where the lookup fails no account is created, and no command is handed over. -/
theorem createWith_of_error (user : String) {fault : Fault} (h : lookup w.outside = .error fault) :
    ∃ journal, directory.createWith host party user w lookup
      = (.ok false, (none, ⟨w.outside, journal, w.calls⟩)) :=
  createUser_of_unknown party user (identify_withLookup h)

/-- A lookup that fails is told from one that does not by the group command. -/
theorem resolveWith_not_agree (hplatform : directory.platform ≠ .windows) {fault : Fault}
    {name : String}
    (hfails : lookup w.outside = .error fault) (hfinds : other w.outside = .ok name) :
    ¬ Agree (directory.resolveWith host party w lookup)
      (directory.resolveWith host party w other) := by
  intro hagree
  have hcalls := hagree.2
  rw [resolveWith, resolveWith, resolveGroup_of_unknown party (identify_withLookup hfails),
    resolveGroup_elsewhere hplatform party (identify_withLookup hfinds)] at hcalls
  exact absurd (List.self_eq_append_right.mp hcalls) (List.cons_ne_nil _ _)

/-- A lookup that fails is told from one that does not by the commands of an account's creation. -/
theorem createWith_not_agree (user : String) {fault : Fault} {name : String}
    (hfails : lookup w.outside = .error fault) (hfinds : other w.outside = .ok name) :
    ¬ Agree (directory.createWith host party user w lookup)
      (directory.createWith host party user w other) := by
  intro hagree
  obtain ⟨journal, hrun⟩ := createWith_of_error user hfails
  have hcalls := hagree.2
  rw [hrun] at hcalls
  exact calls_createUser_ne party user (identify_withLookup hfinds) hcalls.symm

end Telling

/-- **Off Windows two lookups are told apart by how they fail, and not by the names that they
find.** The group is the same, and asked for by the same command, just if both lookups give a name
or both fail with the same fault; and an account is created in the same way just if both give a name
or both fail. -/
theorem lookups_agree_iff (directory : Directory) (hplatform : directory.platform ≠ .windows)
    (host : Host σ) (party : List String → Action σ String) (user : String) (w : World σ)
    (lookup other : σ → Except Fault String) :
    (Agree (directory.resolveWith host party w lookup)
          (directory.resolveWith host party w other) ↔
        (lookup w.outside).map (fun _ => ()) = (other w.outside).map fun _ => ()) ∧
      (Agree (directory.createWith host party user w lookup)
          (directory.createWith host party user w other) ↔
        (lookup w.outside).isOk = (other w.outside).isOk) := by
  rcases hlookup : lookup w.outside with fault | name <;>
    rcases hother : other w.outside with fault' | name'
  · -- both fail: no command is run
    constructor
    · rw [resolveWith, resolveWith, resolveGroup_of_unknown party (identify_withLookup hlookup),
        resolveGroup_of_unknown party (identify_withLookup hother)]
      constructor
      · intro hagree
        exact congrArg Except.error (Except.error.inj hagree.1)
      · intro hsame
        exact ⟨congrArg Except.error (Except.error.inj hsame), rfl⟩
    · obtain ⟨journal, hrun⟩ := createWith_of_error user hlookup
      obtain ⟨journal', hrun'⟩ := createWith_of_error user hother
      rw [hrun, hrun']
      exact iff_of_true ⟨rfl, rfl⟩ rfl
  · constructor
    · exact iff_of_false (resolveWith_not_agree hplatform hlookup hother) (fun h => nomatch h)
    · exact iff_of_false (createWith_not_agree user hlookup hother) (fun h => nomatch h)
  · constructor
    · exact iff_of_false (fun h => resolveWith_not_agree hplatform hother hlookup h.symm)
        (fun h => nomatch h)
    · exact iff_of_false (fun h => createWith_not_agree user hother hlookup h.symm)
        (fun h => nomatch h)
  · -- both give a name, which is not used
    constructor
    · refine iff_of_true ?_ rfl
      exact resolveGroup_agree_of_names hplatform party (identify_withLookup hlookup)
        (identify_withLookup hother) rfl
    · refine iff_of_true ?_ rfl
      exact createUser_agree_of_names hplatform party user (identify_withLookup hlookup)
        (identify_withLookup hother) rfl

/-- A party that answers every command with the same word. -/
def obligingParty : List String → Action Unit String :=
  fun _ => pure "staff"

/-- The fault of a process that has no name. -/
def nameless : Fault :=
  .outside .system "OSError" "No username set in the environment"

/-- A directory of a Linux host. -/
def linuxDirectory : Directory :=
  ⟨.linux, false, ⟨.root, []⟩⟩

theorem lookups_agree_of_names :
    linuxDirectory.platform ≠ .windows ∧
      Agree (linuxDirectory.resolveWith (Host.ofUser "") obligingParty (.start ())
        fun _ => .ok "root")
        (linuxDirectory.resolveWith (Host.ofUser "") obligingParty (.start ())
          fun _ => .ok "builder") ∧
      Agree (linuxDirectory.createWith (Host.ofUser "") obligingParty "alice" (.start ())
        fun _ => .ok "root")
        (linuxDirectory.createWith (Host.ofUser "") obligingParty "alice" (.start ())
          fun _ => .ok "builder") := by
  have hplatform : linuxDirectory.platform ≠ .windows := by decide
  have hagree := lookups_agree_iff linuxDirectory hplatform (Host.ofUser "") obligingParty "alice"
    (.start ()) (fun _ => .ok "root") (fun _ => .ok "builder")
  exact ⟨hplatform, hagree.1.mpr rfl, hagree.2.mpr rfl⟩

/-- A process without a name creates no account where one with a name does, and runs no command. -/
theorem createWith_nameless :
    ¬ Agree (linuxDirectory.createWith (Host.ofUser "") obligingParty "alice" (.start ())
        fun _ => .ok "builder")
      (linuxDirectory.createWith (Host.ofUser "") obligingParty "alice" (.start ())
        fun _ => .error nameless) := by
  intro hagree
  have hmade : (linuxDirectory.createWith (Host.ofUser "") obligingParty "alice" (.start ())
      fun _ => .ok "builder").1 = .ok true := by rfl
  rw [hagree.1] at hmade
  have hunmade : (linuxDirectory.createWith (Host.ofUser "") obligingParty "alice" (.start ())
      fun _ => .error nameless).1 = .ok false := by rfl
  rw [hunmade] at hmade
  cases hmade

end Directory

end TenantHost
