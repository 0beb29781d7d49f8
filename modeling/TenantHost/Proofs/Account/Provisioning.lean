import TenantHost.Proofs.Account.Group
import TenantHost.Proofs.Account.Templates
/-!
# How creating an account ends

An attempt ends in one of three ways: no group was found, every step was done, or a step failed. In
each the report and the commands that were handed over say the same, so the report alone tells how
the attempt ended, and the properties read off it mean what their names say.
-/

namespace TenantHost

variable {σ : Type}

/-! ## Attempts -/

/-- An attempt to create an account: the party for its commands, the name of the current user and
the outside as it was once that name had been asked for, and what the attempt left: its report, the
commands that were handed over, and the outside. -/
structure Attempt (σ : Type) where
  party : List String → Action σ String
  name : Except Fault String
  before : σ
  report : Report
  calls : List (List String)
  after : σ

namespace Attempt

/-- The group command with its answer. -/
def Asked (attempt : Attempt σ) (argv : List String) (answer : Except Fault String) (left : σ) :
    Prop :=
  ∃ current, attempt.name = .ok current ∧ argv = attempt.report.platform.groupArgv current ∧
    attempt.party argv attempt.before = (answer, left)

/-- No group was found: there is no name of the current user, or the answer to the group command,
which is then the only one, names no group. The report is empty but for an error. -/
structure Groupless (attempt : Attempt σ) : Prop where
  groupError : attempt.report.groupError ≠ none
  group : attempt.report.group = ""
  planned : attempt.report.planned = []
  outcomes : attempt.report.outcomes = []
  asked : (∃ fault, attempt.name = .error fault) ∧ attempt.calls = [] ∧
      attempt.after = attempt.before ∨
    ∃ argv answer, attempt.Asked argv answer attempt.after ∧ attempt.calls = [argv] ∧
      attempt.report.platform.groupNamed answer = none

/-- The group command named a group, and what is planned is to create the account in it. Behind the
group command the commands `argvs` were handed over, with `middle` for the outside before them. -/
structure Planned (attempt : Attempt σ) (argvs : List (List String)) (middle : σ) : Prop where
  groupError : attempt.report.groupError = none
  group : attempt.report.group ≠ ""
  planned : attempt.report.planned
    = attempt.report.platform.creationSteps attempt.report.user attempt.report.group
  asked : ∃ argv answer, attempt.Asked argv answer middle ∧ attempt.calls = argv :: argvs ∧
    attempt.report.platform.groupNamed answer = some attempt.report.group

/-- Every planned step was done. -/
def Complete (attempt : Attempt σ) : Prop :=
  ∃ argvs middle, attempt.Planned argvs middle ∧
    AllDone attempt.party attempt.report.planned middle attempt.after attempt.report.outcomes argvs

/-- The planned step at a place failed. -/
def Stopped (attempt : Attempt σ) (place : Nat) : Prop :=
  ∃ argvs middle, attempt.Planned argvs middle ∧
    StoppedAt place attempt.party attempt.report.planned middle attempt.after
      attempt.report.outcomes argvs

/-- The ways in which an attempt may end. -/
inductive Ending where
  | groupless
  | complete
  | stopped (place : Nat)
  deriving DecidableEq, Repr

/-- That the properties of a report say how the attempt ended: it succeeded if it is complete, it
was partially applied if a step before the failed one was done, and the failed step is the outcome
at that step's place. -/
structure Ending.ToldBy (ending : Ending) (report : Report) : Prop where
  succeeded : report.succeeded = true ↔ ending = .complete
  partiallyApplied : report.partiallyApplied = true ↔
    ∃ place, 0 < place ∧ ending = .stopped place
  failedStep : ∀ outcome, report.failedStep = some outcome ↔
    ∃ place, ending = .stopped place ∧ report.outcomes[place]? = some outcome

/-- That an attempt ends in a certain way. -/
def EndsIn (attempt : Attempt σ) : Ending → Prop
  | .groupless => attempt.Groupless
  | .complete => attempt.Complete
  | .stopped place => attempt.Stopped place

end Attempt

/-! ## What the outcomes say -/

theorem all_succeeded_zipWith (steps : List Step) (outputs : List String) :
    (List.zipWith StepOutcome.done steps outputs).all StepOutcome.succeeded = true := by
  induction steps generalizing outputs with
  | nil => rfl
  | cons step steps ih =>
    cases outputs with
    | nil => rfl
    | cons output outputs =>
      rw [List.zipWith_cons_cons, List.all_cons, ih]
      rfl

/-- Outcomes of steps that were all done: one for each step, each of them good. -/
theorem AllDone.length_eq {party : List String → Action σ String} {steps : List Step}
    {before after : σ} {outcomes : List StepOutcome} {argvs : List (List String)}
    (h : AllDone party steps before after outcomes argvs) :
    outcomes.length = steps.length ∧ outcomes.all StepOutcome.succeeded = true := by
  obtain ⟨outputs, hlen, rfl, -, -⟩ := h
  refine ⟨?_, all_succeeded_zipWith steps outputs⟩
  rw [List.length_zipWith, hlen, Nat.min_self]

/-- Outcomes of steps that were done up to a failed one: good ones, as many as the place says, and
then the failed one. -/
theorem StoppedAt.exists_append {place : Nat} {party : List String → Action σ String}
    {steps : List Step} {before after : σ} {outcomes : List StepOutcome}
    {argvs : List (List String)} (h : StoppedAt place party steps before after outcomes argvs) :
    ∃ good failed, outcomes = good ++ [failed] ∧ good.length = place ∧
      good.all StepOutcome.succeeded = true ∧ failed.succeeded = false := by
  obtain ⟨step, outputs, fault, hstep, hlen, rfl, -, -⟩ := h
  refine ⟨_, _, rfl, ?_, all_succeeded_zipWith _ _, rfl⟩
  have hplace := (List.getElem?_eq_some_iff.mp hstep).1
  rw [List.length_zipWith, List.length_take, hlen]
  omega

namespace Attempt

variable {attempt : Attempt σ}

/-! ## What the report says -/

theorem Groupless.succeeded (h : attempt.Groupless) : attempt.report.succeeded = false := by
  rw [Report.succeeded, h.planned]
  simp

theorem Groupless.failedStep (h : attempt.Groupless) : attempt.report.failedStep = none := by
  rw [Report.failedStep, h.outcomes]
  rfl

theorem Groupless.partiallyApplied (h : attempt.Groupless) :
    attempt.report.partiallyApplied = false := by
  rw [Report.partiallyApplied, h.outcomes]
  rfl

theorem Complete.succeeded (h : attempt.Complete) : attempt.report.succeeded = true := by
  obtain ⟨argvs, middle, hplanned, hdone⟩ := h
  obtain ⟨hlen, hall⟩ := hdone.length_eq
  have hne : attempt.report.planned.isEmpty = false := by
    rw [hplanned.planned, List.isEmpty_eq_false_iff]
    exact Platform.creationSteps_ne_nil _ _ _
  rw [Report.succeeded, hplanned.groupError, hne, hlen, hall]
  simp

theorem Complete.failedStep (h : attempt.Complete) : attempt.report.failedStep = none := by
  obtain ⟨argvs, middle, -, hdone⟩ := h
  have hall := List.all_eq_true.mp hdone.length_eq.2
  rw [Report.failedStep, List.find?_eq_none]
  intro outcome houtcome
  rw [hall outcome houtcome]
  decide

theorem Complete.partiallyApplied (h : attempt.Complete) :
    attempt.report.partiallyApplied = false := by
  rw [Report.partiallyApplied, h.succeeded]
  simp

theorem Stopped.succeeded {place : Nat} (h : attempt.Stopped place) :
    attempt.report.succeeded = false := by
  obtain ⟨argvs, middle, -, hstop⟩ := h
  obtain ⟨good, failed, houtcomes, -, -, hfailed⟩ := hstop.exists_append
  rw [Report.succeeded, houtcomes, List.all_append, List.all_cons, hfailed]
  simp

/-- A step was done before the failed one just if that is not the first. -/
theorem Stopped.partiallyApplied {place : Nat} (h : attempt.Stopped place) :
    attempt.report.partiallyApplied = true ↔ 0 < place := by
  have hsucceeded := h.succeeded
  obtain ⟨argvs, middle, -, hstop⟩ := h
  obtain ⟨good, failed, houtcomes, rfl, hgood, hfailed⟩ := hstop.exists_append
  rw [Report.partiallyApplied, hsucceeded, houtcomes, List.any_append, List.any_cons, hfailed]
  cases good with
  | nil => decide
  | cons outcome good =>
    rw [List.all_cons, Bool.and_eq_true] at hgood
    simp [hgood.1]

theorem Stopped.failedStep {place : Nat} (h : attempt.Stopped place) :
    attempt.report.failedStep = attempt.report.outcomes[place]? := by
  obtain ⟨argvs, middle, -, hstop⟩ := h
  obtain ⟨good, failed, houtcomes, rfl, hgood, hfailed⟩ := hstop.exists_append
  have hnone : good.find? (fun outcome => !outcome.succeeded) = none := by
    rw [List.find?_eq_none]
    intro outcome houtcome
    rw [List.all_eq_true.mp hgood outcome houtcome]
    decide
  rw [Report.failedStep, houtcomes, List.find?_append, hnone, List.getElem?_concat_length,
    Option.none_or, List.find?_cons_of_pos (by rw [hfailed]; rfl)]

theorem Stopped.length_outcomes {place : Nat} (h : attempt.Stopped place) :
    attempt.report.outcomes.length = place + 1 := by
  obtain ⟨argvs, middle, -, hstop⟩ := h
  obtain ⟨good, failed, houtcomes, rfl, -, -⟩ := hstop.exists_append
  rw [houtcomes, List.length_append, List.length_singleton]

/-- How an attempt ended, read off its report. -/
def endingOf (report : Report) : Ending :=
  if report.groupError.isSome then .groupless
  else if report.succeeded then .complete
  else .stopped (report.outcomes.length - 1)

/-- **The report tells how an attempt ended.** -/
theorem EndsIn.eq_endingOf {ending : Ending} (h : attempt.EndsIn ending) :
    ending = endingOf attempt.report := by
  -- only an attempt without a group has an error of its own, and only a complete one succeeded
  cases ending with
  | groupless =>
    have hsome := Option.isSome_iff_ne_none.mpr (Groupless.groupError h)
    rw [endingOf, if_pos hsome]
  | complete =>
    obtain ⟨argvs, middle, hplanned, -⟩ := id h
    rw [endingOf, hplanned.groupError, if_neg (by decide), if_pos (Complete.succeeded h)]
  | stopped place =>
    obtain ⟨argvs, middle, hplanned, -⟩ := id h
    rw [endingOf, hplanned.groupError, if_neg (by decide), Stopped.succeeded h,
      if_neg (by decide), Stopped.length_outcomes h, Nat.add_sub_cancel]

/-- The properties of the report say how an attempt ended. -/
theorem EndsIn.toldBy {ending : Ending} (h : attempt.EndsIn ending) :
    ending.ToldBy attempt.report := by
  cases ending with
  | groupless =>
    refine ⟨?_, ?_, fun outcome => ?_⟩
    · rw [Groupless.succeeded h]
      simp
    · rw [Groupless.partiallyApplied h]
      simp
    · rw [Groupless.failedStep h]
      simp
  | complete =>
    refine ⟨?_, ?_, fun outcome => ?_⟩
    · rw [Complete.succeeded h]
      simp
    · rw [Complete.partiallyApplied h]
      simp
    · rw [Complete.failedStep h]
      simp
  | stopped place =>
    refine ⟨?_, ?_, fun outcome => ?_⟩
    · rw [Stopped.succeeded h]
      simp
    · rw [Stopped.partiallyApplied h]
      simp
    · rw [Stopped.failedStep h]
      simp

end Attempt

/-! ## Creating an account -/

namespace Directory

/-- A line about steps that were done before one failed changes nothing but the journal. -/
theorem exists_notePartial_apply {task : Option TaskJournal} (htask : Accepting task)
    (report : Report) (w : World σ) :
    ∃ journal, notePartial task report w = (.ok (), { w with journal }) := by
  rw [notePartial]
  cases report.partiallyApplied with
  | false => exact ⟨w.journal, rfl⟩
  | true =>
    cases report.failedStep with
    | none => exact ⟨w.journal, rfl⟩
    | some failed => exact (log task).exists_write_apply htask .warning _ none w

/-- What is left to do for an account once its group is known. -/
def provisionIn (directory : Directory) (execute : Executor σ) (task : Option TaskJournal)
    (user group : String) : DirectoryAction σ Report := do
  let planned := directory.platform.creationSteps user group
  noteInfo task ("create " ++ directory.platform.name ++ " os user : " ++ user)
  let outcomes ← (runSteps execute task user planned).onSecond
  let report : Report := ⟨user, directory.platform, group, none, planned, outcomes⟩
  (notePartial task report).onSecond
  return report

section Provisioning

variable (directory : Directory) {host : Host σ} (user : String) {task : Option TaskJournal}
  {s : Option String × World σ} {known : Option String} {w : World σ}

/-- Without a group the report is empty but for the error, and no more commands are handed over. -/
theorem provision_of_requireGroup_error (htask : Accepting task) {fault : Fault}
    (h : directory.requireGroup host task s = (.error fault, (known, w))) :
    ∃ journal, directory.provision host user task s
      = (.ok ⟨user, directory.platform, "", some fault.summary, [], []⟩,
          (known, { w with journal })) := by
  obtain ⟨journal, hnote⟩ := exists_noteError_apply htask
    ("Cannot create user " ++ user ++ ": " ++ fault.summary) none (known, w)
  exact ⟨journal, by simp [provision, h, hnote]⟩

theorem provision_of_group {group : String}
    (h : directory.requireGroup host task s = (.ok group, (known, w))) :
    directory.provision host user task s
      = directory.provisionIn host.execute task user group (known, w) := by
  simp [provision, provisionIn, h]

/-- With a group the planned steps are run, up to the first failure. -/
theorem provision_of_requireGroup_ok {party : List String → Action σ String}
    (htask : Accepting task) {group : String}
    (h : directory.requireGroup (host.withParty party) task s = (.ok group, (known, w))) :
    ∃ outcomes after journal argvs,
      directory.provision (host.withParty party) user task s
          = (.ok ⟨user, directory.platform, group, none,
                directory.platform.creationSteps user group, outcomes⟩,
              (known, ⟨after, journal, w.calls ++ argvs⟩)) ∧
        (AllDone party (directory.platform.creationSteps user group)
          w.outside after outcomes argvs ∨
          ∃ place, StoppedAt place party (directory.platform.creationSteps user group)
            w.outside after
            outcomes argvs) := by
  obtain ⟨noted, hinfo⟩ := exists_noteInfo_apply htask
    ("create " ++ directory.platform.name ++ " os user : " ++ user) (known, w)
  have hargv : ∀ step ∈ directory.platform.creationSteps user group, step.argv ≠ [] :=
    fun step hstep => Platform.argv_ne_nil_of_mem_creationSteps hstep
  obtain ⟨outcomes, after, ran, argvs, hrun, hends⟩ :=
    runSteps_apply party htask user hargv { w with journal := noted }
  have hask : (host.withParty party).execute = .ofParty party := rfl
  obtain ⟨journal, hpartial⟩ := exists_notePartial_apply htask
    ⟨user, directory.platform, group, none,
      directory.platform.creationSteps user group, outcomes⟩
    (⟨after, ran, w.calls ++ argvs⟩ : World σ)
  refine ⟨outcomes, after, journal, argvs, ?_, hends⟩
  simp [directory.provision_of_group user h, provisionIn, hask, hinfo, hrun, hpartial]

end Provisioning

/-- Creating an account is answered by the report. -/
theorem createUser_of_provision {directory : Directory} {host : Host σ} {user : String}
    {task : Option TaskJournal} {s t : Option String × World σ} {report : Report}
    (h : directory.provision host user task s = (.ok report, t)) :
    directory.createUser host user task s = (.ok report.succeeded, t) := by
  simp [createUser, h]

/-- Creating an account returns a report, and ends in one of the ways. -/
theorem provision_apply (directory : Directory) (host : Host σ)
    (party : List String → Action σ String) (user : String) {task : Option TaskJournal}
    (htask : Accepting task) (s : Option String × World σ) :
    ∃ (attempt : Attempt σ) (known : Option String) (journal : List Line)
      (ending : Attempt.Ending),
      directory.provision (host.withParty party) user task s
          = (.ok attempt.report, (known,
            ⟨attempt.after, journal, s.2.calls ++ attempt.calls⟩)) ∧
        attempt.report.user = user ∧ attempt.report.platform = directory.platform ∧
        attempt.party = party ∧
        identify host s.1 s.2.outside = (attempt.name, attempt.before) ∧
        attempt.EndsIn ending := by
  rcases hname : identify host s.1 s.2.outside with ⟨fault | current, o⟩
  · -- no name of the current user
    have hgroup : directory.requireGroup (host.withParty party) task s = _ :=
      requireGroup_of_unknown directory party hname
    obtain ⟨journal, hrun⟩ := directory.provision_of_requireGroup_error user htask hgroup
    refine ⟨⟨party, .error fault, o, ⟨user, directory.platform, "", some fault.summary,
      [], []⟩, [],
      o⟩, none, journal, .groupless, ?_, rfl, rfl, rfl, rfl, ?_⟩
    · rw [List.append_nil]
      exact hrun
    · exact ⟨Option.some_ne_none _, rfl, rfl, rfl, .inl ⟨⟨fault, rfl⟩, rfl, rfl⟩⟩
  · obtain ⟨outcome, asked, hgroup, hnamed⟩ :=
      requireGroup_of_known directory party htask hname
    rcases outcome with fault | group
    · -- the answer to the group command names no group
      obtain ⟨journal, hrun⟩ := directory.provision_of_requireGroup_error user htask hgroup
      refine ⟨⟨party, .ok current, o,
        ⟨user, directory.platform, "", some fault.summary, [], []⟩,
        [directory.platform.groupArgv current], _⟩, some current, journal, .groupless,
          hrun, rfl, rfl,
        rfl, rfl, ?_⟩
      exact ⟨Option.some_ne_none _, rfl, rfl, rfl,
        .inr ⟨_, _, ⟨current, rfl, rfl, rfl⟩, rfl, hnamed.symm⟩⟩
    · obtain ⟨outcomes, after, journal, argvs, hrun, hends⟩ :=
        directory.provision_of_requireGroup_ok user htask hgroup
      rw [List.append_assoc, List.singleton_append] at hrun
      have hword : Command.IsWord group := Platform.isWord_of_groupNamed hnamed.symm
      let attempt : Attempt σ :=
        ⟨party, .ok current, o,
          ⟨user, directory.platform, group, none, directory.platform.creationSteps user group,
            outcomes⟩,
          directory.platform.groupArgv current :: argvs, after⟩
      have hplanned : attempt.Planned argvs (party (directory.platform.groupArgv current) o).2 :=
        ⟨rfl, hword.1, rfl, _, _, ⟨current, rfl, rfl, rfl⟩, rfl, hnamed.symm⟩
      rcases hends with hall | ⟨place, hstop⟩
      · exact ⟨attempt, some current, journal, .complete, hrun, rfl, rfl, rfl, rfl, _,
          _, hplanned,
          hall⟩
      · exact ⟨attempt, some current, journal, .stopped place, hrun, rfl, rfl, rfl, rfl, _,
          _, hplanned,
          hstop⟩

/-- **Every attempt ends in exactly one of the ways, and the properties of its report say in
which.** -/
theorem provision_endsIn (directory : Directory) (host : Host σ)
    (party : List String → Action σ String) (user : String) {task : Option TaskJournal}
    (htask : Accepting task) (s : Option String × World σ) :
    ∃ (attempt : Attempt σ) (known : Option String) (journal : List Line)
      (ending : Attempt.Ending),
      directory.provision (host.withParty party) user task s
          = (.ok attempt.report, (known,
            ⟨attempt.after, journal, s.2.calls ++ attempt.calls⟩)) ∧
        attempt.report.user = user ∧ attempt.report.platform = directory.platform ∧
        attempt.party = party ∧
        identify host s.1 s.2.outside = (attempt.name, attempt.before) ∧
        attempt.EndsIn ending ∧ (∀ other, attempt.EndsIn other → other = ending) ∧
        ending.ToldBy attempt.report := by
  obtain ⟨attempt, known, journal, ending, hrun, huser, hplatform, hparty, hname, hends⟩ :=
    provision_apply directory host party user htask s
  refine ⟨attempt, known, journal, ending, hrun, huser, hplatform, hparty, hname, hends, ?_,
    hends.toldBy⟩
  -- two ways of ending would be told by the same report
  intro other hother
  rw [hother.eq_endingOf, hends.eq_endingOf]

/-- A party that knows a group and can add accounts, but nothing else. -/
def addingParty : List String → Action Unit String
  | ["groups"] => pure "staff everyone\n"
  | "sudo" :: "sysadminctl" :: _ => pure ""
  | _ => .fail Host.ofUser.silence

theorem provision_endsIn_halfway :
    Accepting (some ⟨.faults, fun _ => none⟩) ∧
      ∃ (attempt : Attempt Unit) (known : Option String) (journal : List Line),
        provision ⟨.macos, false, ⟨.root, []⟩⟩
          ((Host.ofUser "root").withParty addingParty) "alice"
            (some ⟨.faults, fun _ => none⟩) (none, .start ())
          = (.ok attempt.report, (known, ⟨(), journal, attempt.calls⟩)) ∧
        attempt.EndsIn (.stopped 1) := by
  have htask := accepting_unrefusing .faults
  refine ⟨htask, ?_⟩
  obtain ⟨attempt, known, journal, ending, hrun, -, -, -, -, hends, -⟩ :=
    provision_endsIn ⟨.macos, false, ⟨.root, []⟩⟩ (Host.ofUser "root")
      addingParty "alice" htask
      (none, .start ())
  have hreport : Except.ok (ε := Fault) (Attempt.endingOf attempt.report) = .ok (.stopped 1) := by
    have hend := congrArg (fun r => r.1.map Attempt.endingOf) hrun
    exact hend.symm.trans rfl
  rw [hends.eq_endingOf, Except.ok.inj hreport] at hends
  exact ⟨attempt, known, journal, hrun, hends⟩

end Directory

end TenantHost
