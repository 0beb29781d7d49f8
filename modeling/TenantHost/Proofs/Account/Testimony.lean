import TenantHost.Proofs.Account.Arguments
import TenantHost.Proofs.Account.Mirroring
import TenantHost.Proofs.Journal.Writing
/-!
# What the journal says of an attempt

Whoever asks for an account is told whether it was created; everything else is in the journal. The
lines of an attempt are laid out here as its report is made, and then compared with how the attempt
really ended: an error stands there just if it failed, a warning just if a step was done before
another one failed, and the announcements of the steps are those of the commands that were handed
over.
-/

namespace TenantHost

variable {σ : Type}

/-! ## The lines of an attempt -/

/-- What is written before a step is run. -/
def Step.announcement (step : Step) : String :=
  step.description ++ " : " ++ step.command

namespace Report

/-- The line before the steps. -/
def creationLine (report : Report) : Line :=
  ⟨.users, .info, "create " ++ report.platform.name ++ " os user : " ++ report.user, none⟩

/-- What is said of an account that some steps were done for, by their descriptions, and then one
failed. -/
def partialText (user : String) (completed : List String) (failed : String) : String :=
  "User " ++ user ++ " is partially provisioned: completed [" ++
    ", ".intercalate (completed.map Text.quoted) ++ "], failed '" ++ failed ++
    "'; nothing was rolled back"

/-- The line behind the steps: a warning, if some were done before one failed. -/
def partialLines (report : Report) : List Line :=
  match report.partiallyApplied, report.failedStep with
  | true, some failed =>
    [⟨.users, .warning, partialText report.user report.completed failed.step.description, none⟩]
  | _, _ => []

end Report

/-- Lines about steps: each is announced, and an error stands behind the one that failed. -/
inductive StepLines : List StepOutcome → List Line → Prop
  | nil : StepLines [] []
  | done {outcome : StepOutcome} {outcomes : List StepOutcome} {lines : List Line}
      (hdone : outcome.succeeded = true) (hrest : StepLines outcomes lines) :
      StepLines (outcome :: outcomes)
        (⟨.users, .info, outcome.step.announcement, none⟩ :: lines)
  | failed {outcome : StepOutcome} {error : Line} (hfailed : outcome.succeeded = false)
      (herror : error.level = .error) :
      StepLines [outcome] [⟨.users, .info, outcome.step.announcement, none⟩, error]

/-- Lines about an attempt: only errors if there is no group, and otherwise those about the steps,
with one before them and maybe one behind. -/
inductive ReportLines : Report → List Line → Prop
  | groupless {report : Report} {lines : List Line} (hgroup : report.groupError ≠ none)
      (hlines : lines ≠ []) (herrors : ∀ line ∈ lines, line.level = .error) :
        ReportLines report lines
  | planned {report : Report} {lines : List Line} (hgroup : report.groupError = none)
      (hsteps : StepLines report.outcomes lines) :
      ReportLines report (report.creationLine :: (lines ++ report.partialLines))

/-! ## What is written -/

namespace Directory

variable {host : Host σ}

/-- The journal of a directory's world. -/
abbrev journal (s : Option String × World σ) : List Line :=
  s.2.journal

theorem currentUser_adds (host : Host σ) :
    Action.Adds journal .users (currentUser host) fun _ lines => lines = [] := by
  refine .of_journal_eq fun s => ?_
  rcases hname : identify host s.1 s.2.outside with ⟨name, o⟩
  rw [currentUser_apply hname]

theorem runLine_adds {execute : Executor σ} (h : execute.AddsElsewhere .users) (line : String) :
    Action.Adds World.journal .users (execute.runLine line) fun _ lines => lines = [] :=
  (h.run (by decide) _).adds

theorem noteInfo_adds (text : String) :
    Action.Adds (journal (σ := σ)) .users (noteInfo none text) fun outcome lines =>
      outcome = .ok () ∧ lines = [⟨.users, .info, text, none⟩] :=
  (TaskLog.write_adds .users .info text none).onSecond

theorem noteError_adds (text : String) (about : Option Fault) :
    Action.Adds (journal (σ := σ)) .users (noteError none text about) fun outcome lines =>
      outcome = .ok () ∧ lines = [⟨.users, .error, text, about⟩] :=
  (TaskLog.write_adds .users .error text about).onSecond

/-- Finding the group writes no more than an error, and then the group is an empty one. -/
theorem resolveGroup_adds (directory : Directory) (h : host.execute.AddsElsewhere .users) :
    Action.Adds journal .users (directory.resolveGroup host none) fun outcome lines =>
      (∀ line ∈ lines, line.level = .error) ∧ (lines = [] ∨ outcome = .ok "") := by
  have hnone : ∀ line ∈ ([] : List Line), line.level = Level.error :=
    fun line hline => absurd hline List.not_mem_nil
  refine (currentUser_adds host).bind_of_silent (fun _ => ⟨hnone, .inl rfl⟩) fun user => ?_
  refine (runLine_adds h _).onSecond.bind_of_silent (fun _ => ⟨hnone, .inl rfl⟩)
    fun output => ?_
  cases directory.platform.parseGroup output with
  | ok group =>
    refine (Action.Adds.pure group).mono ?_
    rintro outcome lines ⟨rfl, rfl⟩
    exact ⟨hnone, .inl rfl⟩
  | error fault =>
    refine ((noteError_adds _ none).bind_of_line fun _ => .pure "").mono ?_
    rintro outcome lines ⟨rest, rfl, rfl, rfl⟩
    refine ⟨fun line hline => ?_, .inr rfl⟩
    rw [List.mem_singleton.mp hline]

/-- A group that is required is found without a line; what is written if there is none are
errors. -/
theorem requireGroup_adds (directory : Directory) (h : host.execute.AddsElsewhere .users) :
    Action.Adds journal .users (directory.requireGroup host none) fun outcome lines =>
      (∀ line ∈ lines, line.level = .error) ∧ ∀ group, outcome = .ok group →
        lines = [] := by
  -- nothing more is written, and an empty group is a fault
  have hcheck : ∀ group : String, Action.Adds journal .users
      (if group.isEmpty then do Action.fail (.noGroup (← currentUser host) directory.platform)
        else pure group : DirectoryAction σ String)
      fun outcome lines => lines = [] ∧ ∀ found, outcome = .ok found → group ≠ "" := by
    intro group
    split
    · refine ((currentUser_adds host).bind fun user => .fail _).mono ?_
      rintro outcome lines (⟨fault, rfl, rfl⟩ | ⟨user, front, rest, rfl, rfl, rfl, rfl⟩)
      · exact ⟨rfl, fun found hfound => nomatch hfound⟩
      · exact ⟨rfl, fun found hfound => nomatch hfound⟩
    · refine (Action.Adds.pure group).mono ?_
      rintro outcome lines ⟨rfl, rfl⟩
      refine ⟨rfl, fun found _ hempty => ?_⟩
      simp_all
  refine ((resolveGroup_adds directory h).bind hcheck).mono ?_
  rintro outcome lines
    (⟨fault, rfl, herrors, -⟩ | ⟨group, front, rest, rfl, ⟨herrors, hends⟩,
      rfl, hfound⟩)
  · exact ⟨herrors, fun group hgroup => nomatch hgroup⟩
  · rw [List.append_nil]
    refine ⟨herrors, fun found hok => ?_⟩
    rcases hends with hnone | hempty
    · exact hnone
    · exact absurd (Except.ok.inj hempty) (hfound found hok)

/-- Each step is announced, and the one that failed is followed by an error. -/
theorem runSteps_adds {execute : Executor σ} (h : execute.AddsElsewhere .users) (user : String)
    (steps : List Step) :
    Action.Adds World.journal .users (runSteps execute none user steps) fun outcome lines =>
      ∃ outcomes, outcome = .ok outcomes ∧ StepLines outcomes lines := by
  induction steps with
  | nil =>
    refine (Action.Adds.pure []).mono ?_
    rintro outcome lines ⟨rfl, rfl⟩
    exact ⟨[], rfl, .nil⟩
  | cons step rest ih =>
    -- whatever the command gives, what is written then belongs behind the announcement
    refine ((TaskLog.write_adds .users .info step.announcement none).bind_of_line fun _ =>
      (runLine_adds h _).attempt_bind (fun _ result lines => ∃ outcomes, result = .ok outcomes ∧
        StepLines outcomes (⟨.users, .info, step.announcement, none⟩ :: lines))
          fun outcome => ?_).mono ?_
    · cases outcome with
      | ok output =>
        refine (ih.bind_pure _).mono ?_
        rintro result lines ⟨first, ⟨outcomes, rfl, hlines⟩, rfl⟩
        exact ⟨_, rfl, .done rfl hlines⟩
      | error fault =>
        refine ((TaskLog.write_adds .users .error _ (some fault)).bind_of_line
          fun _ => .pure [(⟨step, false, "", some fault.summary⟩ : StepOutcome)]).mono ?_
        rintro result lines ⟨rest, rfl, rfl, rfl⟩
        exact ⟨_, rfl, .failed rfl rfl⟩
    · rintro result lines ⟨_, rfl, outcome, front, rest, rfl, rfl, htold⟩
      exact htold

theorem notePartial_adds (report : Report) :
    Action.Adds (World.journal (σ := σ)) .users (notePartial none report) fun outcome lines =>
      outcome = .ok () ∧ lines = report.partialLines := by
  rw [notePartial, Report.partialLines]
  cases report.partiallyApplied with
  | false => exact .pure ()
  | true =>
    cases report.failedStep with
    | none => exact .pure ()
    | some failed => exact TaskLog.write_adds .users .warning _ none

/-- Once the group is known, a line stands before those about the steps and maybe one behind. -/
theorem provisionIn_adds (directory : Directory) {execute : Executor σ}
    (h : execute.AddsElsewhere .users) (user group : String) :
    Action.Adds journal .users (directory.provisionIn execute none user group) fun result lines =>
      ∃ report, result = .ok report ∧ ReportLines report lines := by
  let report (outcomes : List StepOutcome) : Report :=
    ⟨user, directory.platform, group, none,
      directory.platform.creationSteps user group, outcomes⟩
  refine ((noteInfo_adds _).bind_of_line fun _ => (runSteps_adds h user _).onSecond.bind
    fun outcomes =>
    (notePartial_adds (report outcomes)).onSecond.bind_pure fun _ => report outcomes).mono ?_
  rintro result lines ⟨_, rfl, ⟨fault, -, outcomes, hok, -⟩ |
    ⟨_, front, _, rfl, ⟨outcomes, hok, hsteps⟩, _, ⟨rfl, rfl⟩, rfl⟩⟩
  · cases hok
  · cases hok
    exact ⟨report _, rfl, .planned rfl hsteps⟩

/-- **The lines of an attempt are laid out as its report is made.** -/
theorem provision_adds (directory : Directory) (h : host.execute.AddsElsewhere .users)
    (user : String) :
    Action.Adds journal .users (directory.provision host user none) fun result lines =>
      ∃ report, result = .ok report ∧ ReportLines report lines := by
  -- errors may stand in front if there is no group, and nothing does if there is one
  refine ((requireGroup_adds directory h).attempt_bind
    (fun outcome result rest => ∃ report, result = .ok report ∧
      ∀ front : List Line, (∀ line ∈ front, line.level = .error) →
        (∀ group, outcome = .ok group → front = []) → ReportLines report (front ++ rest))
    fun outcome => ?_).mono ?_
  · cases outcome with
    | error fault =>
      refine ((noteError_adds _ none).bind_of_line fun _ =>
        .pure (⟨user, directory.platform, "", some fault.summary, [], []⟩ : Report)).mono ?_
      rintro result lines ⟨_, rfl, rfl, rfl⟩
      refine ⟨_, rfl, fun front herrors _ => .groupless (Option.some_ne_none _) (by simp) ?_⟩
      intro line hline
      rcases List.mem_append.mp hline with hline | hline
      · exact herrors line hline
      · rw [List.mem_singleton.mp hline]
    | ok group =>
      refine (provisionIn_adds directory h user group).mono ?_
      rintro result lines ⟨report, rfl, hlines⟩
      refine ⟨report, rfl, fun front _ hnone => ?_⟩
      rwa [hnone group rfl]
  · rintro result lines ⟨outcome, front, rest, rfl, ⟨herrors, hnone⟩, report, rfl, hlines⟩
    exact ⟨report, rfl, hlines front herrors hnone⟩

end Directory

/-! ## What the lines say -/

namespace StepLines

variable {outcomes : List StepOutcome} {lines : List Line}

/-- The announcements are those of the steps that have an outcome. -/
theorem texts_info (h : StepLines outcomes lines) :
    textsOf .info lines = outcomes.map fun outcome => outcome.step.announcement := by
  induction h with
  | nil => rfl
  | done hdone hrest ih =>
    rw [textsOf_cons, if_pos rfl, ih, List.map_cons, List.singleton_append]
  | failed hfailed herror =>
    rw [textsOf_cons, textsOf_cons, if_pos rfl, herror, if_neg (by decide)]
    rfl

theorem texts_warning (h : StepLines outcomes lines) : textsOf .warning lines = [] := by
  induction h with
  | nil => rfl
  | done hdone hrest ih => rw [textsOf_cons, if_neg (Level.noConfusion ·), ih, List.append_nil]
  | failed hfailed herror =>
    rw [textsOf_cons, textsOf_cons, herror, if_neg (Level.noConfusion ·), if_neg (by decide)]
    rfl

/-- An error stands among the lines just if a step failed. -/
theorem exists_error_iff (h : StepLines outcomes lines) :
    (∃ line ∈ lines, line.level = .error) ↔ outcomes.all StepOutcome.succeeded = false := by
  induction h with
  | nil => simp
  | done hdone hrest ih =>
    rw [List.all_cons, hdone, Bool.true_and, ← ih]
    simp
  | failed hfailed herror =>
    rw [List.all_cons, hfailed]
    simp [herror]

end StepLines

/-! ## Outcomes and steps -/

theorem map_step_zipWith {steps : List Step} {outputs : List String}
    (h : outputs.length = steps.length) :
    (List.zipWith StepOutcome.done steps outputs).map StepOutcome.step = steps := by
  induction steps generalizing outputs with
  | nil => rfl
  | cons step steps ih =>
    cases outputs with
    | nil => cases h
    | cons output outputs =>
      rw [List.zipWith_cons_cons, List.map_cons, ih (Nat.succ.inj h)]
      rfl

/-- The outcomes of steps that were all done are those of the steps, in order. -/
theorem AllDone.map_step {party : List String → Action σ String} {steps : List Step}
    {before after : σ} {outcomes : List StepOutcome} {argvs : List (List String)}
    (h : AllDone party steps before after outcomes argvs) :
    outcomes.map StepOutcome.step = steps := by
  obtain ⟨outputs, hlen, rfl, -, -⟩ := h
  exact map_step_zipWith hlen

/-- The outcomes of steps up to a failed one are those of the steps up to it, in order. -/
theorem StoppedAt.map_step {place : Nat} {party : List String → Action σ String}
    {steps : List Step} {before after : σ} {outcomes : List StepOutcome}
    {argvs : List (List String)} (h : StoppedAt place party steps before after outcomes argvs) :
    outcomes.map StepOutcome.step = steps.take (place + 1) := by
  obtain ⟨step, outputs, fault, hstep, hlen, rfl, -, -⟩ := h
  have hplace := (List.getElem?_eq_some_iff.mp hstep).1
  rw [List.map_append, map_step_zipWith, List.take_add_one, hstep]
  · rfl
  · rw [hlen, List.length_take]
    omega

namespace Attempt

variable {attempt : Attempt σ}

/-- The steps that have an outcome are the first ones of the plan, and theirs are the commands that
were handed over behind the group command. -/
theorem EndsIn.handed {ending : Ending} (h : attempt.EndsIn ending) :
    attempt.report.outcomes.map StepOutcome.step <+: attempt.report.planned ∧
      attempt.calls.tail = (attempt.report.outcomes.map StepOutcome.step).map Step.argv := by
  cases ending with
  | groupless =>
    rw [h.outcomes]
    refine ⟨List.nil_prefix, ?_⟩
    rcases h.asked with ⟨-, hcalls, -⟩ | ⟨argv, answer, -, hcalls, -⟩
    · rw [hcalls]
      rfl
    · rw [hcalls]
      rfl
  | complete =>
    obtain ⟨argvs, middle, hplanned, hdone⟩ := h
    obtain ⟨argv, answer, -, hcalls, -⟩ := hplanned.asked
    rw [hdone.map_step, hcalls, List.tail_cons]
    obtain ⟨outputs, -, -, hargvs, -⟩ := hdone
    exact ⟨List.prefix_refl _, hargvs⟩
  | stopped place =>
    obtain ⟨argvs, middle, hplanned, hstop⟩ := h
    obtain ⟨argv, answer, -, hcalls, -⟩ := hplanned.asked
    rw [hstop.map_step, hcalls, List.tail_cons]
    obtain ⟨step, outputs, fault, -, -, -, hargvs, -⟩ := hstop
    exact ⟨List.take_prefix _ _, hargvs⟩

/-- The steps that were done before a failed one, and that one, by the outcomes. -/
theorem Stopped.completed {place : Nat} (h : attempt.Stopped place) :
    ∃ failed outcome, attempt.report.planned[place]? = some failed ∧
      attempt.report.outcomes[place]? = some outcome ∧ outcome.step = failed ∧
      attempt.report.completed = (attempt.report.planned.take place).map Step.description := by
  obtain ⟨argvs, middle, -, hstop⟩ := h
  have hsteps := hstop.map_step
  obtain ⟨good, outcome, houtcomes, rfl, hgood, hfailed⟩ := hstop.exists_append
  have hplace : attempt.report.planned[good.length]? = some outcome.step := by
    have hlast : (attempt.report.outcomes.map StepOutcome.step)[good.length]?
        = some outcome.step := by
      rw [List.getElem?_map, houtcomes, List.getElem?_concat_length]
      rfl
    rwa [hsteps, List.getElem?_take_of_lt (Nat.lt_succ_self _)] at hlast
  refine ⟨outcome.step, outcome, hplace, ?_, rfl, ?_⟩
  · rw [houtcomes, List.getElem?_concat_length]
  · have hgoodSteps : good.map StepOutcome.step = attempt.report.planned.take good.length := by
      have hfront := congrArg (List.take good.length) hsteps
      rw [houtcomes, List.map_append, List.take_left' (List.length_map _), List.take_take,
        Nat.min_eq_left (Nat.le_succ _)] at hfront
      exact hfront
    have hfilter : attempt.report.outcomes.filter StepOutcome.succeeded = good := by
      rw [houtcomes, List.filter_append, List.filter_eq_self.mpr (List.all_eq_true.mp hgood),
        List.filter_cons_of_neg (by rw [hfailed]; exact Bool.false_ne_true), List.filter_nil,
        List.append_nil]
    rw [Report.completed, hfilter, ← hgoodSteps, List.map_map]
    rfl

/-- What the lines of an attempt say of how it ended: an error stands there just if it failed; there
is one warning if a step was done before one failed, which names them, and none otherwise; and it is
said that an account is created, just if there is a group, and then, step by step, which commands
were handed over. -/
structure AttestedBy (attempt : Attempt σ) (ending : Ending) (lines : List Line) : Prop where
  error : attempt.report.succeeded = false ↔ ∃ line ∈ lines, line.level = .error
  warned : ∀ place, 0 < place → ending = .stopped place →
    ∃ failed, attempt.report.planned[place]? = some failed ∧
      textsOf .warning lines = [Report.partialText attempt.report.user
        ((attempt.report.planned.take place).map Step.description) failed.description]
  unwarned : (∀ place, 0 < place → ending ≠ .stopped place) → textsOf .warning lines = []
  announced : ∃ handed, handed <+: attempt.report.planned ∧
    attempt.calls.tail = handed.map Step.argv ∧
    textsOf .info lines
      = (if attempt.report.group = "" then []
          else ["create " ++ attempt.report.platform.name ++ " os user : " ++ attempt.report.user])
        ++ handed.map Step.announcement

/-- With a group an attempt succeeded just if every outcome is good. -/
theorem EndsIn.all_succeeded {ending : Ending} (h : attempt.EndsIn ending)
    (hgroup : attempt.report.groupError = none) :
    attempt.report.outcomes.all StepOutcome.succeeded = attempt.report.succeeded := by
  cases ending with
  | groupless => exact absurd hgroup h.groupError
  | complete =>
    rw [Complete.succeeded h]
    obtain ⟨argvs, middle, -, hdone⟩ := h
    exact hdone.length_eq.2
  | stopped place =>
    rw [Stopped.succeeded h]
    obtain ⟨argvs, middle, -, hstop⟩ := h
    obtain ⟨good, failed, houtcomes, -, -, hfailed⟩ := hstop.exists_append
    rw [houtcomes, List.all_append, List.all_cons, hfailed, Bool.false_and, Bool.and_false]

theorem EndsIn.partialLines_eq_nil {ending : Ending} (h : attempt.EndsIn ending)
    (hnone : ∀ place, 0 < place → ending ≠ .stopped place) :
    attempt.report.partialLines = [] := by
  have hpartial : attempt.report.partiallyApplied = false := by
    rw [Bool.eq_false_iff]
    intro htrue
    obtain ⟨place, hpos, hending⟩ := h.toldBy.partiallyApplied.mp htrue
    exact hnone place hpos hending
  rw [Report.partialLines, hpartial]

theorem Stopped.partialLines {place : Nat} (h : attempt.Stopped place) (hpos : 0 < place) :
    ∃ failed, attempt.report.planned[place]? = some failed ∧
      attempt.report.partialLines = [⟨.users, .warning, Report.partialText attempt.report.user
        ((attempt.report.planned.take place).map Step.description) failed.description,
          none⟩] := by
  obtain ⟨failed, outcome, hplanned, houtcome, rfl, hcompleted⟩ := h.completed
  refine ⟨outcome.step, hplanned, ?_⟩
  rw [Report.partialLines, h.partiallyApplied.mpr hpos, h.failedStep, houtcome, hcompleted]

theorem level_of_mem_partialLines {report : Report} {line : Line}
    (h : line ∈ report.partialLines) :
    line.level = .warning := by
  rw [Report.partialLines] at h
  split at h
  · rw [List.mem_singleton.mp h]
  · exact absurd h List.not_mem_nil

/-- **Lines that are laid out as the report is made tell how the attempt ended.** -/
theorem EndsIn.attestedBy {ending : Ending} (h : attempt.EndsIn ending) {lines : List Line}
    (hlines : ReportLines attempt.report lines) : attempt.AttestedBy ending lines := by
  obtain ⟨hfirst, hcalls⟩ := h.handed
  cases hlines with
  | groupless hgroup hne herrors =>
    -- only an attempt without a group has a report without one
    cases ending with
    | complete =>
      obtain ⟨argvs, middle, hplanned, -⟩ := h
      exact absurd hplanned.groupError hgroup
    | stopped place =>
      obtain ⟨argvs, middle, hplanned, -⟩ := h
      exact absurd hplanned.groupError hgroup
    | groupless =>
      refine ⟨?_, fun place _ hending => Ending.noConfusion hending, ?_, _, hfirst, hcalls, ?_⟩
      · obtain ⟨line, hline⟩ := List.exists_mem_of_ne_nil lines hne
        exact iff_of_true (Groupless.succeeded h) ⟨line, hline, herrors line hline⟩
      · exact fun _ => textsOf_eq_nil herrors (by decide)
      · rw [textsOf_eq_nil herrors (by decide), h.group, h.outcomes]
        rfl
  | @planned middle hgroup hsteps =>
    obtain ⟨argvs, before, hplanned, -, -⟩ := h.exists_planned hgroup
    have hwarnings : textsOf .warning
        (attempt.report.creationLine :: (middle ++ attempt.report.partialLines))
        = textsOf .warning attempt.report.partialLines := by
      rw [textsOf_cons, if_neg (Level.noConfusion ·), textsOf_append, hsteps.texts_warning]
      rfl
    refine ⟨?_, ?_, ?_, _, hfirst, hcalls, ?_⟩
    · -- neither the line before the steps nor the one behind them is an error
      rw [← h.all_succeeded hgroup, ← hsteps.exists_error_iff]
      constructor
      · rintro ⟨line, hline, herror⟩
        exact ⟨line, List.mem_cons_of_mem _ (List.mem_append_left _ hline), herror⟩
      · rintro ⟨line, hline, herror⟩
        rcases List.mem_cons.mp hline with rfl | hline
        · cases herror
        · rcases List.mem_append.mp hline with hline | hline
          · exact ⟨line, hline, herror⟩
          · rw [level_of_mem_partialLines hline] at herror
            cases herror
    · rintro place hpos rfl
      obtain ⟨failed, hfailed, hpartial⟩ := Stopped.partialLines h hpos
      refine ⟨failed, hfailed, ?_⟩
      rw [hwarnings, hpartial]
      rfl
    · intro hnone
      rw [hwarnings, h.partialLines_eq_nil hnone]
      rfl
    · have hlevel : attempt.report.creationLine.level = .info := rfl
      rw [textsOf_cons, if_pos hlevel, textsOf_append, hsteps.texts_info,
        textsOf_eq_nil (fun _ hline => level_of_mem_partialLines hline) (by decide),
          List.append_nil,
        if_neg hplanned.group, List.map_map]
      rfl

end Attempt

/-- **The journal tells the truth about an attempt.** However it ends, the answer and the lines
about accounts that it adds say so. -/
theorem Directory.createUser_attested (directory : Directory) (host : Host σ)
    (party : List String → Action σ String) (user : String) (s : Option String × World σ) :
    ∃ (attempt : Attempt σ) (known : Option String) (lines : List Line)
      (ending : Attempt.Ending),
      directory.createUser (host.withParty party) user none s
          = (.ok attempt.report.succeeded,
              (known, ⟨attempt.after, s.2.journal ++ lines, s.2.calls ++ attempt.calls⟩)) ∧
        attempt.report.user = user ∧ attempt.report.platform = directory.platform ∧
        attempt.party = party ∧
        identify host s.1 s.2.outside = (attempt.name, attempt.before) ∧
        attempt.EndsIn ending ∧ attempt.AttestedBy ending (linesOn .users lines) := by
  obtain ⟨attempt, known, journal, ending, hrun, huser, hplatform, hparty, hname, hends⟩ :=
    provision_apply directory host party user accepting_none s
  have hhost : (host.withParty party).execute.AddsElsewhere .users :=
    Executor.ofParty_addsElsewhere .users party
  obtain ⟨lines, hjournal, report, hreport, hlines⟩ := provision_adds directory hhost user s
  rw [hrun] at hjournal hreport
  obtain rfl : journal = s.2.journal ++ lines := hjournal
  obtain rfl : attempt.report = report := Except.ok.inj hreport
  exact ⟨attempt, known, lines, ending, createUser_of_provision hrun, huser, hplatform,
    hparty, hname,
    hends, hends.attestedBy hlines⟩

end TenantHost
