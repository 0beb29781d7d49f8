import TenantHost.Proofs.Account.Ensuring
import TenantHost.Proofs.Account.Provisioning
/-!
# Journals that refuse lines

What goes wrong in a directory is written to the journal, and then the answer is an empty list or
`false`. A task's journal may refuse that very line, and nothing is there to catch it: the lines
about a failure stand where the failure has been caught already, and the line about an account that
was ensured stands behind everything else. So an operation may fail after all. It does so only with
the fault of a line that was refused, and when is a matter of how the same run goes for the same
journal when that refuses nothing: up to the first refusal the two are one run.
-/

namespace TenantHost

variable {σ α : Type}

/-- The same journal, if it refused nothing. -/
def TaskJournal.unrefusing (task : TaskJournal) : TaskJournal :=
  { task with refusal := fun _ => none }

theorem accepting_map_unrefusing (task : Option TaskJournal) :
    Accepting (task.map TaskJournal.unrefusing) := by
  cases task with
  | none => exact accepting_none
  | some task => exact accepting_unrefusing task.channel

namespace Directory

/-- That a task's journal accepts the lines of a level that the directory writes. -/
def Accepts (task : Option TaskJournal) (level : Level) : Prop :=
  (log task).refusal level = none

theorem accepts_of_accepting {task : Option TaskJournal} (h : Accepting task) (level : Level) :
    Accepts task level :=
  TaskLog.refusal_of_accepting h level

/-- What becomes of an answer before which a line has to be written. -/
def behindLine (task : Option TaskJournal) (level : Level) (a : α) : Except Fault α :=
  match (log task).refusal level with
  | none => .ok a
  | some fault => .error fault

theorem behindLine_of_accepts {task : Option TaskJournal} {level : Level}
    (h : Accepts task level) (a : α) :
    behindLine task level a = .ok a := by
  unfold behindLine
  rw [h]

theorem behindLine_eq_ok_iff {task : Option TaskJournal} {level : Level} {a b : α} :
    behindLine task level a = .ok b ↔ Accepts task level ∧ a = b := by
  unfold behindLine Accepts
  cases (log task).refusal level <;> simp

theorem refusal_of_behindLine {task : Option TaskJournal} {level : Level} {a : α} {fault : Fault}
    (h : behindLine task level a = .error fault) : (log task).refusal level = some fault := by
  unfold behindLine at h
  cases hrefusal : (log task).refusal level with
  | none =>
    rw [hrefusal] at h
    cases h
  | some other =>
    rw [hrefusal] at h
    rw [Except.error.inj h]

/-! ## Lines -/

section Lines

variable {task : Option TaskJournal}

/-- A line that is accepted is the same line for the journal that refuses nothing. -/
theorem write_unrefusing {level : Level} (h : Accepts task level) (text : String)
    (about : Option Fault) :
    (log task).write (σ := σ) level text about
      = (log (task.map TaskJournal.unrefusing)).write level text about := by
  funext w
  have hcopies : (log task).copies level text about
      = (log (task.map TaskJournal.unrefusing)).copies level text about := by
    cases task <;> rfl
  rw [TaskLog.write_of_accepted h, TaskLog.write_apply _ (accepting_map_unrefusing task), hcopies]
  rfl

theorem noteError_unrefusing (h : Accepts task .error) (text : String) (about : Option Fault) :
    noteError (σ := σ) task text about = noteError (task.map TaskJournal.unrefusing) text about :=
  congrArg Action.onSecond (write_unrefusing h text about)

/-- The outcome of writing a line and answering then. -/
theorem outcome_write_bind {level : Level} (text : String) (about : Option Fault) (a : α)
    (s : Option String × World σ) :
    ((((log task).write level text about).onSecond >>= fun _ =>
      (pure a : DirectoryAction σ α)) s).1
      = behindLine task level a := by
  unfold behindLine
  cases hrefusal : (log task).refusal level with
  | none =>
    rw [Action.bind_ok (Action.onSecond_of (TaskLog.write_of_accepted hrefusal text about s.2))]
    rfl
  | some fault =>
    rw [Action.bind_error (Action.onSecond_of (TaskLog.write_of_refused hrefusal text about s.2))]

end Lines

/-! ## Listing -/

section Listing

variable {directory : Directory} {host : Host σ} {task : Option TaskJournal}
  {s t : Option String × World σ}

theorem outcome_listUsers_of_fault {fault : Fault}
    (h : directory.listing host s = (.error fault, t)) :
    (directory.listUsers host task s).1 = behindLine task .error [] := by
  rw [listUsers_of_fault h]
  exact outcome_write_bind _ _ _ t

/-- Accounts that cannot be listed: if the line about it is accepted, it is the same for the journal
that refuses nothing. -/
theorem listUsers_unrefusing_of_fault {fault : Fault}
    (h : directory.listing host s = (.error fault, t)) (haccepts : Accepts task .error) :
    directory.listUsers host task s
      = directory.listUsers host (task.map TaskJournal.unrefusing) s := by
  rw [listUsers_of_fault h, listUsers_of_fault h, noteError_unrefusing haccepts]

end Listing

/-! ## Finding the group -/

section Creating

variable {directory : Directory} {host : Host σ} {task : Option TaskJournal} {user : String}
  {s t : Option String × World σ}

/-- **A group is found or not, whatever the task's journal refuses**: to find one takes no line. -/
theorem requireGroup_eq_ok_iff {group : String} :
    directory.requireGroup host task s = (.ok group, t) ↔
      group.isEmpty = false ∧ ∃ current middle output,
        currentUser host s = (.ok current, middle) ∧
        (host.execute.runLine (directory.platform.groupCommand current)).onSecond middle
          = (.ok output, t) ∧
        directory.platform.parseGroup output = .ok group := by
  constructor
  · intro h
    obtain ⟨found, t', hresolve, hfound⟩ := Action.bind_eq_ok_iff.mp h
    obtain ⟨current, middle, hcurrent, hrest⟩ := Action.bind_eq_ok_iff.mp hresolve
    obtain ⟨output, after, hrun, hparsed⟩ := Action.bind_eq_ok_iff.mp hrest
    by_cases hempty : found.isEmpty = true
    · -- an empty group is a fault
      rw [if_pos hempty] at hfound
      obtain ⟨_, _, -, hfail⟩ := Action.bind_eq_ok_iff.mp hfound
      cases hfail
    · rw [if_neg hempty] at hfound
      obtain ⟨hgroup, rfl⟩ := Prod.mk.inj hfound
      obtain rfl := Except.ok.inj hgroup
      cases houtcome : directory.platform.parseGroup output with
      | error fault =>
        -- what cannot be read counts as an empty group
        rw [houtcome] at hparsed
        obtain ⟨_, _, -, hnone⟩ := Action.bind_eq_ok_iff.mp hparsed
        obtain rfl := Except.ok.inj (Prod.mk.inj hnone).1
        exact absurd rfl hempty
      | ok group =>
        rw [houtcome] at hparsed
        obtain ⟨hgroup, rfl⟩ := Prod.mk.inj hparsed
        rw [← Except.ok.inj hgroup] at hempty ⊢
        exact ⟨Bool.eq_false_iff.mpr hempty, current, middle, output, hcurrent, hrun, houtcome⟩
  · rintro ⟨hempty, current, middle, output, hcurrent, hrun, hparsed⟩
    have hresolve : directory.resolveGroup host task s = (.ok group, t) := by
      refine (Action.bind_ok hcurrent).trans ((Action.bind_ok hrun).trans ?_)
      rw [hparsed]
      rfl
    refine (Action.bind_ok hresolve).trans ?_
    rw [if_neg (Bool.eq_false_iff.mp hempty)]
    rfl

theorem requireGroup_eq_ok_iff_of_other {group : String} (other : Option TaskJournal) :
    directory.requireGroup host task s = (.ok group, t) ↔
      directory.requireGroup host other s = (.ok group, t) :=
  requireGroup_eq_ok_iff.trans requireGroup_eq_ok_iff.symm

/-! ## Running steps -/

/-- **A first step that runs**: it is noted, and then either its command gives an output and the
other steps are run, or its command fails and that is noted. -/
theorem runSteps_cons_eq_ok_iff {execute : Executor σ} {step : Step} {rest : List Step}
    {outcomes : List StepOutcome} {w w' : World σ} :
    runSteps execute task user (step :: rest) w = (.ok outcomes, w') ↔
      ∃ noted, (log task).info (step.description ++ " : " ++ step.command) w = (.ok (), noted) ∧
        ((∃ output after more, execute.runLine step.command noted = (.ok output, after) ∧
            runSteps execute task user rest after = (.ok more, w') ∧
            outcomes = .done step output :: more) ∨
          ∃ fault after, execute.runLine step.command noted = (.error fault, after) ∧
            (log task).error
              ("Step '" ++ step.description ++ "' failed for user " ++ user ++ ": "
                ++ fault.message)
              (some fault) after = (.ok (), w') ∧
            outcomes = [⟨step, false, "", some fault.summary⟩]) := by
  constructor
  · intro h
    obtain ⟨_, noted, hnoted, hrest⟩ := Action.bind_eq_ok_iff.mp h
    obtain ⟨outcome, after, hattempt, hgo⟩ := Action.bind_eq_ok_iff.mp hrest
    have hrun := Action.attempt_eq_iff.mp hattempt
    refine ⟨noted, hnoted, ?_⟩
    cases outcome with
    | ok output =>
      obtain ⟨more, w'', hmore, hdone⟩ := Action.bind_eq_ok_iff.mp hgo
      obtain ⟨houtcomes, rfl⟩ := Prod.mk.inj hdone
      exact .inl ⟨output, after, more, hrun, hmore, (Except.ok.inj houtcomes).symm⟩
    | error fault =>
      obtain ⟨_, w'', hwritten, hdone⟩ := Action.bind_eq_ok_iff.mp hgo
      obtain ⟨houtcomes, rfl⟩ := Prod.mk.inj hdone
      exact .inr ⟨fault, after, hrun, hwritten, (Except.ok.inj houtcomes).symm⟩
  · rintro ⟨noted, hnoted, ⟨output, after, more, hrun, hmore, rfl⟩ |
      ⟨fault, after, hrun, hwritten, rfl⟩⟩
    · simp [runSteps, StepOutcome.done, hnoted, hrun, hmore]
    · simp [runSteps, hnoted, hrun, hwritten]

/-- Steps that are all done take no more than their own lines. -/
theorem runSteps_of_all_succeeded {execute : Executor σ} {other : Option TaskJournal}
    (hinfo : ∀ text, (log task).info (σ := σ) text = (log other).info text) {steps : List Step}
    {outcomes : List StepOutcome} {w w' : World σ}
    (h : runSteps execute task user steps w = (.ok outcomes, w'))
    (hall : outcomes.all StepOutcome.succeeded = true) :
    runSteps execute other user steps w = (.ok outcomes, w') := by
  induction steps generalizing w outcomes with
  | nil => exact h
  | cons step rest ih =>
    obtain ⟨noted, hnoted, ⟨output, after, more, hrun, hmore, rfl⟩ |
      ⟨fault, after, -, -, rfl⟩⟩ := runSteps_cons_eq_ok_iff.mp h
    · rw [hinfo] at hnoted
      rw [List.all_cons, Bool.and_eq_true] at hall
      exact runSteps_cons_eq_ok_iff.mpr
        ⟨noted, hnoted, .inl ⟨output, after, more, hrun, ih hmore hall.2, rfl⟩⟩
    · cases hall

/-- Where errors are refused, steps that run to an end are all done. -/
theorem all_succeeded_of_refused {execute : Executor σ} (hrefused : ¬Accepts task .error)
    {steps : List Step} {outcomes : List StepOutcome} {w w' : World σ}
    (h : runSteps execute task user steps w = (.ok outcomes, w')) :
    outcomes.length = steps.length ∧ outcomes.all StepOutcome.succeeded = true := by
  induction steps generalizing w outcomes with
  | nil =>
    obtain rfl : [] = outcomes := Except.ok.inj (Prod.mk.inj h).1
    exact ⟨rfl, rfl⟩
  | cons step rest ih =>
    obtain ⟨noted, -, ⟨output, after, more, -, hmore, rfl⟩ |
      ⟨fault, after, -, hwritten, -⟩⟩ :=
      runSteps_cons_eq_ok_iff.mp h
    · obtain ⟨hlen, hall⟩ := ih hmore
      exact ⟨congrArg Nat.succ hlen, hall⟩
    · -- the line about the failure was written, so it was not refused
      exact absurd (TaskLog.refusal_of_write_ok hwritten) hrefused

/-! ## Creating -/

/-- **A report comes in one of two ways**: without a group, once that is written, or with one, once
the steps are noted and run. -/
theorem provision_eq_ok_iff {report : Report} :
    directory.provision host user task s = (.ok report, t) ↔
      (∃ fault asked, directory.requireGroup host task s = (.error fault, asked) ∧
        noteError task ("Cannot create user " ++ user ++ ": " ++ fault.summary) none asked
          = (.ok (), t) ∧
        report = ⟨user, directory.platform, "", some fault.summary, [], []⟩) ∨
      ∃ group asked noted ran outcomes, directory.requireGroup host task s
        = (.ok group, asked) ∧
        noteInfo task ("create " ++ directory.platform.name ++ " os user : " ++ user) asked
          = (.ok (), noted) ∧
        (runSteps host.execute task user
            (directory.platform.creationSteps user group)).onSecond noted
          = (.ok outcomes, ran) ∧
        report = ⟨user, directory.platform, group, none,
          directory.platform.creationSteps user group,
          outcomes⟩ ∧
        (notePartial task report).onSecond ran = (.ok (), t) := by
  constructor
  · intro h
    obtain ⟨outcome, asked, hattempt, hrest⟩ := Action.bind_eq_ok_iff.mp h
    have hgroup := Action.attempt_eq_iff.mp hattempt
    cases outcome with
    | error fault =>
      obtain ⟨_, _, hnoted, hdone⟩ := Action.bind_eq_ok_iff.mp hrest
      obtain ⟨hreport, rfl⟩ := Prod.mk.inj hdone
      exact .inl ⟨fault, asked, hgroup, hnoted, (Except.ok.inj hreport).symm⟩
    | ok group =>
      obtain ⟨_, noted, hnoted, hsteps⟩ := Action.bind_eq_ok_iff.mp hrest
      obtain ⟨outcomes, ran, hran, hpartial⟩ := Action.bind_eq_ok_iff.mp hsteps
      obtain ⟨_, _, hwritten, hdone⟩ := Action.bind_eq_ok_iff.mp hpartial
      obtain ⟨hreport, rfl⟩ := Prod.mk.inj hdone
      obtain rfl := Except.ok.inj hreport
      exact .inr ⟨group, asked, noted, ran, outcomes, hgroup, hnoted, hran, rfl, hwritten⟩
  · rintro (⟨fault, asked, hgroup, hnoted, rfl⟩ |
      ⟨group, asked, noted, ran, outcomes, hgroup, hnoted, hran, rfl, hwritten⟩)
    · exact (Action.bind_ok (Action.attempt_of hgroup)).trans (Action.bind_ok hnoted)
    · refine (Action.bind_ok (Action.attempt_of hgroup)).trans ((Action.bind_ok hnoted).trans ?_)
      exact (Action.bind_ok hran).trans (Action.bind_ok hwritten)

/-- A step was done in part only if the attempt did not succeed. -/
theorem notePartial_of_succeeded {report : Report} (h : report.succeeded = true) :
    notePartial (σ := σ) task report = pure () := by
  rw [notePartial, Report.partiallyApplied, h, Bool.not_true, Bool.and_false]

/-- **An account that is created takes no more than the lines about its steps**, and those it
takes. -/
theorem provision_of_succeeded {other : Option TaskJournal}
    (hinfo : ∀ text, (log task).info (σ := σ) text = (log other).info text) {report : Report}
    (h : directory.provision host user task s = (.ok report, t))
    (hsucceeded : report.succeeded = true) :
    directory.provision host user other s = (.ok report, t) := by
  rw [provision_eq_ok_iff] at h ⊢
  rcases h with ⟨fault, asked, -, -, rfl⟩ |
    ⟨group, asked, noted, ran, outcomes, hgroup, hnoted, hran, rfl, hwritten⟩
  · cases hsucceeded
  · have hall : outcomes.all StepOutcome.succeeded = true := (Bool.and_eq_true_iff.mp hsucceeded).2
    obtain ⟨hrun, hknown⟩ := Action.onSecond_eq_iff.mp hran
    refine .inr ⟨group, asked, noted, ran, outcomes,
      (requireGroup_eq_ok_iff_of_other other).mp hgroup,
      ?_, ?_, rfl, ?_⟩
    · rw [noteInfo, ← hinfo]
      exact hnoted
    · exact Action.onSecond_eq_iff.mpr ⟨runSteps_of_all_succeeded hinfo hrun hall, hknown⟩
    · rw [notePartial_of_succeeded hsucceeded] at hwritten ⊢
      exact hwritten

theorem accepts_info_of_succeeded {report : Report}
    (h : directory.provision host user task s = (.ok report, t))
    (hsucceeded : report.succeeded = true) :
    Accepts task .info := by
  rcases provision_eq_ok_iff.mp h with ⟨fault, asked, -, -, rfl⟩ |
    ⟨group, asked, noted, -, -, -, hnoted, -⟩
  · cases hsucceeded
  · exact TaskLog.refusal_of_write_ok (Action.onSecond_eq_iff.mp hnoted).1

/-- Where errors are refused, a report is one about an account that is created. -/
theorem succeeded_of_refused (hrefused : ¬Accepts task .error) {report : Report}
    (h : directory.provision host user task s = (.ok report, t)) : report.succeeded = true := by
  rcases provision_eq_ok_iff.mp h with ⟨fault, asked, -, hnoted, -⟩ |
    ⟨group, asked, noted, ran, outcomes, -, -, hran, rfl, -⟩
  · exact absurd (TaskLog.refusal_of_write_ok (Action.onSecond_eq_iff.mp hnoted).1) hrefused
  · obtain ⟨hlen, hall⟩ := all_succeeded_of_refused hrefused (Action.onSecond_eq_iff.mp hran).1
    have hne : (directory.platform.creationSteps user group).isEmpty = false :=
      List.isEmpty_eq_false_iff.mpr (Platform.creationSteps_ne_nil _ _ _)
    simp [Report.succeeded, hlen, hall, hne]

/-- Creating an account passes on whether the report says that it is created, or writes what went
wrong. -/
theorem createUser_cases (directory : Directory) (host : Host σ) (user : String)
    (task : Option TaskJournal) (s : Option String × World σ) :
    (∃ report t, directory.provision host user task s = (.ok report, t) ∧
        directory.createUser host user task s = (.ok report.succeeded, t)) ∨
      ((∀ report t, directory.provision host user task s ≠ (.ok report, t)) ∧
        (directory.createUser host user task s).1 = behindLine task .error false) := by
  rcases hrun : directory.provision host user task s with ⟨fault | report, t⟩
  · have hcreate : directory.createUser host user task s = _ :=
      Action.bind_ok (Action.attempt_of hrun)
    refine .inr ⟨fun report t' hreport => ?_, ?_⟩
    · cases hreport
    · rw [hcreate]
      exact outcome_write_bind _ _ _ t
  · exact .inl ⟨report, t, rfl, createUser_of_provision hrun⟩

/-- Whether an account is created, by the report. -/
theorem createUser_eq_true_iff :
    directory.createUser host user task s = (.ok true, t) ↔
      ∃ report, directory.provision host user task s = (.ok report, t) ∧
        report.succeeded = true := by
  rcases createUser_cases directory host user task s with ⟨report, t', hrun, hcreate⟩ |
    ⟨hnone, hcreate⟩
  · rw [hrun, hcreate]
    constructor
    · intro h
      obtain ⟨hmade, rfl⟩ := Prod.mk.inj h
      exact ⟨report, rfl, Except.ok.inj hmade⟩
    · rintro ⟨other, hsame, hsucceeded⟩
      obtain ⟨hreport, rfl⟩ := Prod.mk.inj hsame
      rw [Except.ok.inj hreport, hsucceeded]
  · constructor
    · intro h
      rw [h] at hcreate
      exact absurd (behindLine_eq_ok_iff.mp hcreate.symm).2 Bool.false_ne_true
    · rintro ⟨report, hrun, -⟩
      exact absurd hrun (hnone report t)

theorem info_unrefusing (h : Accepts task .info) (text : String) :
    (log task).info (σ := σ) text = (log (task.map TaskJournal.unrefusing)).info text :=
  write_unrefusing h text none

/-- **An account is created just if it is for the journal that refuses nothing, and the lines about
its steps are accepted.** -/
theorem createUser_eq_true_iff_unrefusing :
    directory.createUser host user task s = (.ok true, t) ↔ Accepts task .info ∧
      directory.createUser host user (task.map TaskJournal.unrefusing) s = (.ok true, t) := by
  rw [createUser_eq_true_iff, createUser_eq_true_iff]
  constructor
  · rintro ⟨report, hrun, hsucceeded⟩
    have hinfo := accepts_info_of_succeeded hrun hsucceeded
    exact ⟨hinfo, report, provision_of_succeeded (info_unrefusing hinfo) hrun hsucceeded,
      hsucceeded⟩
  · rintro ⟨hinfo, report, hrun, hsucceeded⟩
    have hsame : ∀ text, (log (task.map TaskJournal.unrefusing)).info (σ := σ) text
        = (log task).info text := fun text => (info_unrefusing hinfo text).symm
    exact ⟨report, provision_of_succeeded hsame hrun hsucceeded, hsucceeded⟩

/-- **Whatever is not created is answered behind a line about an error.** -/
theorem outcome_createUser_of_not_made
    (h : ∀ t, directory.createUser host user task s ≠ (.ok true, t)) :
    (directory.createUser host user task s).1 = behindLine task .error false := by
  rcases createUser_cases directory host user task s with ⟨report, t, hrun, hcreate⟩ |
    ⟨-, hcreate⟩
  · -- it was reported on and not created, so that errors are accepted
    have hfailed : report.succeeded = false := by
      rw [Bool.eq_false_iff]
      intro hsucceeded
      rw [hsucceeded] at hcreate
      exact h t hcreate
    have haccepts : Accepts task .error := by
      apply Classical.byContradiction
      intro hrefused
      rw [succeeded_of_refused hrefused hrun] at hfailed
      cases hfailed
    rw [behindLine_of_accepts haccepts, hcreate, hfailed]
  · exact hcreate

/-! ## Ensuring -/

theorem outcome_createNoted_of_made (h : directory.createUser host user task s = (.ok true, t)) :
    (directory.createNoted host user task s).1 = behindLine task .info true := by
  have hrun : directory.createNoted host user task s = _ := Action.bind_ok h
  rw [hrun]
  exact outcome_write_bind _ _ _ t

/-- An account that is not created takes two lines: one about an error and one about what was
done. -/
theorem outcome_createNoted_of_not_made
    (h : ∀ t, directory.createUser host user task s ≠ (.ok true, t)) :
    (directory.createNoted host user task s).1
      = behindLine task .error false >>= behindLine task .info := by
  have houtcome := outcome_createUser_of_not_made h
  rcases hcreate : directory.createUser host user task s with ⟨fault | made, t⟩
  · have hrun : directory.createNoted host user task s = _ := Action.bind_error hcreate
    rw [hcreate] at houtcome
    rw [hrun, ← houtcome]
    rfl
  · have hrun : directory.createNoted host user task s = _ := Action.bind_ok hcreate
    rw [hcreate] at houtcome
    obtain rfl := (behindLine_eq_ok_iff.mp houtcome.symm).2
    rw [hrun, ← houtcome]
    exact outcome_write_bind _ _ _ t

end Creating

/-! ## Answers -/

/-- That an action comes to an answer. -/
def Answers (act : DirectoryAction σ α) (s : Option String × World σ) : Prop :=
  ∃ a, (act s).1 = .ok a

/-- That an action comes to an answer just if a condition holds, and that otherwise it fails with
the fault of a line about an error, or about what was done, that the task's journal refused. -/
structure AnswersJustIf (task : Option TaskJournal) (act : DirectoryAction σ α)
    (s : Option String × World σ) (condition : Prop) : Prop where
  answers : Answers act s ↔ condition
  refused : ∀ fault, (act s).1 = .error fault →
    (log task).refusal .error = some fault ∨ (log task).refusal .info = some fault

section Answering

variable {directory : Directory} {host : Host σ} {task : Option TaskJournal} {user : String}
  {s t : Option String × World σ} {act : DirectoryAction σ α} {condition : Prop}

theorem AnswersJustIf.of_ok {a : α} (h : (act s).1 = .ok a) (hcondition : condition) :
    AnswersJustIf task act s condition where
  answers := iff_of_true ⟨a, h⟩ hcondition
  refused fault hfault := by
    rw [h] at hfault
    cases hfault

theorem AnswersJustIf.of_behindLine {level : Level}
    (hlevel : level = .error ∨ level = .info) {a : α}
    (h : (act s).1 = behindLine task level a) (hcondition : Accepts task level ↔ condition) :
    AnswersJustIf task act s condition where
  answers := by
    rw [← hcondition]
    constructor
    · rintro ⟨b, hb⟩
      exact (behindLine_eq_ok_iff.mp (h.symm.trans hb)).1
    · intro haccepts
      exact ⟨a, h.trans (behindLine_of_accepts haccepts a)⟩
  refused fault hfault := by
    have hrefusal := refusal_of_behindLine (h.symm.trans hfault)
    rcases hlevel with rfl | rfl
    · exact .inl hrefusal
    · exact .inr hrefusal

theorem AnswersJustIf.of_outcome_eq {β : Type} {other : DirectoryAction σ β} {f : α → β}
    (h : AnswersJustIf task act s condition) (hsame : (other t).1 = (act s).1.map f) :
    AnswersJustIf task other t condition where
  answers := by
    rw [← h.answers]
    unfold Answers
    rw [hsame]
    cases (act s).1 <;> simp
  refused fault hfault := by
    apply h.refused
    rw [hsame] at hfault
    cases houtcome : (act s).1 with
    | error other =>
      rw [houtcome] at hfault
      exact congrArg Except.error (Except.error.inj hfault)
    | ok a =>
      rw [houtcome] at hfault
      cases hfault

/-- Listing answers if the accounts can be listed, or else the line about it is accepted. -/
theorem listUsers_answersJustIf :
    AnswersJustIf task (directory.listUsers host task) s
      (Accepts task .error ∨ Answers (directory.listing host) s) := by
  rcases hlisting : directory.listing host s with ⟨fault | names, t⟩
  · refine .of_behindLine (.inl rfl) (outcome_listUsers_of_fault hlisting) ?_
    have hnone : ¬Answers (directory.listing host) s := by
      rintro ⟨names, hnames⟩
      rw [hlisting] at hnames
      cases hnames
    exact (or_iff_left hnone).symm
  · have hrun : directory.listUsers host task s = _ := listUsers_of_listing hlisting
    exact .of_ok (congrArg Prod.fst hrun) (.inr ⟨names, congrArg Prod.fst hlisting⟩)

theorem userExists_answersJustIf :
    AnswersJustIf task (directory.userExists host user task) s
      (Accepts task .error ∨ Answers (directory.listing host) s) := by
  refine listUsers_answersJustIf.of_outcome_eq (f := fun names => names.contains user) ?_
  rcases hlist : directory.listUsers host task s with ⟨fault | names, t⟩
  · exact congrArg Prod.fst (Action.bind_error hlist)
  · exact congrArg Prod.fst (Action.bind_ok hlist)

/-- Creating answers if what went wrong can be written, or nothing went wrong. -/
theorem createUser_answersJustIf :
    AnswersJustIf task (directory.createUser host user task) s
      (Accepts task .error ∨ Accepts task .info ∧
        (directory.createUser host user (task.map TaskJournal.unrefusing) s).1 = .ok true) := by
  rcases Classical.em (∃ t, directory.createUser host user task s = (.ok true, t)) with
    ⟨t, hmade⟩ | hunmade
  · obtain ⟨hinfo, hplain⟩ := createUser_eq_true_iff_unrefusing.mp hmade
    exact .of_ok (congrArg Prod.fst hmade) (.inr ⟨hinfo, congrArg Prod.fst hplain⟩)
  · have hnot : ∀ t, directory.createUser host user task s ≠ (.ok true, t) :=
      fun t h => hunmade ⟨t, h⟩
    refine .of_behindLine (.inl rfl) (outcome_createUser_of_not_made hnot) (or_iff_left ?_).symm
    rintro ⟨hinfo, hplain⟩
    exact hnot _ (createUser_eq_true_iff_unrefusing.mpr ⟨hinfo, Prod.ext hplain rfl⟩)

/-- Creating and writing whether that succeeded answers if the last line is accepted, and creating
answers. -/
theorem createNoted_answersJustIf :
    AnswersJustIf task (directory.createNoted host user task) s
      (Accepts task .info ∧ (Accepts task .error ∨
        (directory.createUser host user (task.map TaskJournal.unrefusing) s).1 = .ok true)) := by
  rcases Classical.em (∃ t, directory.createUser host user task s = (.ok true, t)) with
    ⟨t, hmade⟩ | hunmade
  · have hplain := (createUser_eq_true_iff_unrefusing.mp hmade).2
    refine .of_behindLine (.inr rfl) (outcome_createNoted_of_made hmade) (and_iff_left ?_).symm
    exact .inr (congrArg Prod.fst hplain)
  · have hnot : ∀ t, directory.createUser host user task s ≠ (.ok true, t) :=
      fun t h => hunmade ⟨t, h⟩
    have houtcome := outcome_createNoted_of_not_made hnot
    rcases Classical.em (Accepts task .error) with herror | herror
    · rw [behindLine_of_accepts herror] at houtcome
      exact .of_behindLine (.inr rfl) houtcome (and_iff_left (.inl herror)).symm
    · -- the line about the error is refused, and no more lines are written
      obtain ⟨fault, hrefusal⟩ := Option.ne_none_iff_exists'.mp herror
      have hfails : behindLine task .error false >>= behindLine task .info
          = behindLine task .error false := by
        unfold behindLine
        rw [hrefusal]
        rfl
      rw [hfails] at houtcome
      refine .of_behindLine (.inl rfl) houtcome (iff_of_false herror ?_)
      rintro ⟨hinfo, haccepts | hplain⟩
      · exact herror haccepts
      · exact hnot _ (createUser_eq_true_iff_unrefusing.mpr ⟨hinfo, Prod.ext hplain rfl⟩)

/-- For the journal that refuses nothing, an account that is not listed is ensured just if it is
created. -/
theorem ensureUser_unrefusing_iff {names : List String}
    (h : directory.listUsers host (task.map TaskJournal.unrefusing) s = (.ok names, t))
    (hunlisted : user ∉ names) :
    (directory.ensureUser host user (task.map TaskJournal.unrefusing) s).1 = .ok true ↔
      (directory.createUser host user (task.map TaskJournal.unrefusing) t).1 = .ok true := by
  have haccepts := accepts_of_accepting (accepting_map_unrefusing task)
  rw [ensureUser_of_unlisted h hunlisted]
  rcases Classical.em (∃ t', directory.createUser host user (task.map TaskJournal.unrefusing) t
      = (.ok true, t')) with ⟨t', hmade⟩ | hunmade
  · rw [outcome_createNoted_of_made hmade, behindLine_of_accepts (haccepts .info), hmade]
  · rw [outcome_createNoted_of_not_made fun t' ht' => hunmade ⟨t', ht'⟩,
      behindLine_of_accepts (haccepts .error)]
    refine iff_of_false ?_ fun hmade => hunmade ⟨_, Prod.ext hmade rfl⟩
    intro hmade
    exact absurd (behindLine_eq_ok_iff.mp hmade).2 Bool.false_ne_true

/-- An account that is not listed is ensured by creating it. -/
theorem ensureUser_answersJustIf_of_unlisted {names : List String}
    (h : directory.listUsers host task s = (.ok names, t))
    (hplain : directory.listUsers host (task.map TaskJournal.unrefusing) s = (.ok names, t))
    (hunlisted : user ∉ names) :
    AnswersJustIf task (directory.ensureUser host user task) s
      (Accepts task .info ∧ (Accepts task .error ∨
        (directory.ensureUser host user (task.map TaskJournal.unrefusing) s).1 = .ok true)) := by
  rw [ensureUser_unrefusing_iff hplain hunlisted]
  apply createNoted_answersJustIf.of_outcome_eq (f := id)
  rw [ensureUser_of_unlisted h hunlisted, Except.map_id]
  rfl

/-- That an account is among those that the host lists. -/
def IsListed (directory : Directory) (host : Host σ) (user : String)
    (s : Option String × World σ) : Prop :=
  ∃ names, (directory.listing host s).1 = .ok names ∧ user ∈ names

/-- Ensuring answers if the account is listed; or else if the last line is accepted, and so is what
has to be written about what went wrong, or nothing did. -/
theorem ensureUser_answersJustIf :
    AnswersJustIf task (directory.ensureUser host user task) s
      (directory.IsListed host user s ∨ Accepts task .info ∧ (Accepts task .error ∨
        Answers (directory.listing host) s ∧
          (directory.ensureUser host user (task.map TaskJournal.unrefusing) s).1 = .ok true)) := by
  rcases hlisting : directory.listing host s with ⟨fault | names, t⟩
  · -- the accounts cannot be listed, which has to be written before anything is created
    have hanswers : ¬Answers (directory.listing host) s := by
      rintro ⟨names, hnames⟩
      rw [hlisting] at hnames
      cases hnames
    have hlisted : ¬directory.IsListed host user s :=
      fun ⟨names, hnames, _⟩ => hanswers ⟨names, hnames⟩
    have houtcome : (directory.listUsers host task s).1 = behindLine task .error [] :=
      outcome_listUsers_of_fault hlisting
    simp only [hanswers, hlisted, false_and, or_false, false_or]
    rcases Classical.em (Accepts task .error) with herror | herror
    · have hsame := listUsers_unrefusing_of_fault hlisting herror
      rw [behindLine_of_accepts herror] at houtcome
      have hlist : directory.listUsers host task s
          = (.ok [], (directory.listUsers host task s).2) :=
        Prod.ext houtcome rfl
      have hensure := ensureUser_answersJustIf_of_unlisted hlist (hsame ▸ hlist)
        (List.not_mem_nil (a := user))
      simpa only [herror, true_or] using hensure
    · refine .of_behindLine (.inl rfl) (a := true) ?_ (iff_of_false herror fun h => herror h.2)
      obtain ⟨refusal, hrefusal⟩ := Option.ne_none_iff_exists'.mp herror
      have hfails : ∀ {β : Type} (b : β), behindLine task .error b = .error refusal := by
        intro β b
        unfold behindLine
        rw [hrefusal]
      rw [hfails] at houtcome ⊢
      have hlist : directory.listUsers host task s = (.error refusal, _) := Prod.ext houtcome rfl
      exact congrArg Prod.fst (Action.bind_error (Action.bind_error hlist))
  · have hrun : ∀ task, directory.listUsers host task s = (.ok names, t) := fun task =>
      listUsers_of_listing hlisting
    have hnames : (directory.listing host s).1 = .ok names := congrArg Prod.fst hlisting
    by_cases hmem : user ∈ names
    · exact .of_ok (congrArg Prod.fst (ensureUser_of_listed (hrun task) hmem))
        (.inl ⟨names, hnames, hmem⟩)
    · have hlisted : ¬directory.IsListed host user s := by
        rintro ⟨others, hothers, hother⟩
        rw [hnames] at hothers
        exact hmem (Except.ok.inj hothers ▸ hother)
      have hanswers : Answers (directory.listing host) s := ⟨names, hnames⟩
      simp only [hanswers, hlisted, true_and, false_or]
      exact ensureUser_answersJustIf_of_unlisted (hrun _) (hrun _) hmem

end Answering

/-- **When the operations of a directory answer.** They fail only with the fault of a line that a
task's journal refused. Without a task, or with one that accepts what is written about errors and
about what was done, all of them answer, and warnings never matter. Otherwise listing fails if the
accounts cannot be listed and errors are refused; creating fails if errors are refused and the
account is not created; and ensuring an account that is not listed also fails if what was done is
refused. -/
theorem operations_answerJustIf (directory : Directory) (host : Host σ) (user : String)
    (task : Option TaskJournal) (s : Option String × World σ) :
    AnswersJustIf task (directory.listUsers host task) s
        (Accepts task .error ∨ Answers (directory.listing host) s) ∧
      AnswersJustIf task (directory.userExists host user task) s
        (Accepts task .error ∨ Answers (directory.listing host) s) ∧
      AnswersJustIf task (directory.createUser host user task) s
        (Accepts task .error ∨ Accepts task .info ∧
          (directory.createUser host user (task.map TaskJournal.unrefusing) s).1 = .ok true) ∧
      AnswersJustIf task (directory.ensureUser host user task) s
        (directory.IsListed host user s ∨ Accepts task .info ∧ (Accepts task .error ∨
          Answers (directory.listing host) s ∧
            (directory.ensureUser host user (task.map TaskJournal.unrefusing) s).1 = .ok true)) :=
  ⟨listUsers_answersJustIf, userExists_answersJustIf, createUser_answersJustIf,
    ensureUser_answersJustIf⟩

/-- A task's journal that refuses lines about errors. -/
def errorRefusing : TaskJournal where
  channel := ⟨"task"⟩
  refusal
    | .error => some (.outside .other "RuntimeError" "task log failed")
    | _ => none

/-- A host without any files. -/
def bareHost : Host Unit :=
  { Host.ofUser "builder" with
    readFile := fun path => .fail (.file .missing (Text.quoted path.text)) }

/-- The accounts of a database that does not exist: to list them fails. -/
theorem listUsers_errorRefusing :
    ¬Answers (listUsers ⟨.linux, false, ⟨.here, ["passwd"]⟩⟩ bareHost (some errorRefusing))
      (none, .start ()) := by
  rintro ⟨names, hnames⟩
  cases hnames

end Directory

end TenantHost
