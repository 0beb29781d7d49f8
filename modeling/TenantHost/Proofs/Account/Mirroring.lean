import TenantHost.Proofs.Account.Group
import TenantHost.Proofs.Command.Launch
import TenantHost.Proofs.Journal.Mirror
/-!
# Work on behalf of a task

The work of a directory is the same with a task's journal and without one: the same outcome, the
same commands, the same lines. The task's journal only gets its copies. Each operation hands the
task down to the ones that it is made of, so this is a matter of the lines alone.
-/

namespace TenantHost

open TenantHost.Action (InStep Beside)

/-! ## Executors -/

namespace Executor

variable {σ : Type}

/-- That an executor pays no heed to the journal, and adds no lines to it on a channel. -/
def AddsElsewhere (channel : Channel) (execute : Executor σ) : Prop :=
  ∀ argv, (execute argv).AddsElsewhere channel

theorem ofParty_addsElsewhere (channel : Channel) (party : List String → Action σ String) :
    (ofParty party).AddsElsewhere channel := by
  intro argv outside calls
  refine ⟨(party argv outside).1, (party argv outside).2, [], calls ++ [argv], ?_, ?_⟩
  · intro line hline
    exact absurd hline List.not_mem_nil
  · intro journal
    rw [ofParty_apply, List.append_nil]

/-- The executor that launches programs writes on the channel of the commands. -/
theorem ofLauncher_addsElsewhere {channel : Channel} (h : channel ≠ .commands)
    (launch : List String → Action σ Finished) : (ofLauncher launch).AddsElsewhere channel := by
  intro argv outside calls
  by_cases hargv : argv = []
  · refine ⟨.error (.command ⟨[], .empty⟩), outside, [], calls, ?_, ?_⟩
    · intro line hline
      exact absurd hline List.not_mem_nil
    · intro journal
      rw [ofLauncher, if_pos hargv, List.append_nil]
      rfl
  · refine ⟨launched argv (launch argv outside).1, (launch argv outside).2,
      [launchLine argv], calls,
      ?_, fun journal => ofLauncher_apply launch hargv _⟩
    intro line hline
    rw [List.mem_singleton.mp hline]
    exact Ne.symm h

/-- A runner writes no more than its executor does, and on the channel of the commands. -/
theorem AddsElsewhere.run {channel : Channel} {execute : Executor σ}
    (h : execute.AddsElsewhere channel)
    (hcommands : channel ≠ .commands) : AddsElsewhere channel execute.run := by
  intro argv outside calls
  by_cases hargv : argv = []
  · refine ⟨.error (.command ⟨[], .empty⟩), outside, [], calls, ?_, ?_⟩
    · intro line hline
      exact absurd hline List.not_mem_nil
    · intro journal
      rw [Executor.run, if_pos hargv, List.append_nil]
      rfl
  · obtain ⟨outcome, after, lines, handed, helsewhere, hexecute⟩ := h argv outside calls
    refine ⟨outcome.mapError (surfaced argv), after, lines ++ reported argv outcome,
      handed, ?_, ?_⟩
    · intro line hline
      rcases List.mem_append.mp hline with hline | hline
      · exact helsewhere line hline
      · rw [channel_of_mem_reported hline]
        exact Ne.symm hcommands
    · intro journal
      rw [run_apply execute hargv, hexecute, List.append_assoc]

end Executor

namespace Directory

variable {σ : Type}

/-! ## Operations in step -/

/-- That the work of a directory goes in step for two tasks: whatever is asked of the host does, and
so do the lines, those of the directory to either task. -/
structure Pairing (R : World σ → World σ → Prop) (host : Host σ)
    (left right : Option TaskJournal) :
    Prop where
  execute : ∀ argv, InStep R (host.execute argv) (host.execute argv)
  names : InStep R (World.ask host.userName) (World.ask host.userName)
  reads : ∀ path, InStep R (World.ask (host.readFile path)) (World.ask (host.readFile path))
  write : ∀ line : Line, line.channel ≠ .users →
    InStep R (World.write line) (World.write line)
  log : ∀ level text about,
    InStep R ((log left).write level text about) ((log right).write level text about)

namespace Pairing

variable {R : World σ → World σ → Prop} {host : Host σ} {left right : Option TaskJournal}

theorem run (pairing : Pairing R host left right) (argv : List String) :
    InStep R (host.execute.run argv) (host.execute.run argv) := by
  have hcommands : Channel.commands ≠ .users := by decide
  unfold Executor.run
  split
  · exact .fail _
  · refine (pairing.execute argv).attempt.bind fun outcome => ?_
    cases outcome with
    | ok output => exact .pure output
    | error fault =>
      cases fault with
      | command fault => exact .fail _
      | _ => exact (pairing.write _ hcommands).bind fun _ => .fail _

theorem runLine (pairing : Pairing R host left right) (line : String) :
    InStep R (host.execute.runLine line) (host.execute.runLine line) :=
  pairing.run _

theorem noteInfo (pairing : Pairing R host left right) (text : String) :
    InStep (Beside R) (Directory.noteInfo left text) (Directory.noteInfo right text) :=
  (pairing.log .info text none).onSecond

theorem noteError (pairing : Pairing R host left right) (text : String) (about : Option Fault) :
    InStep (Beside R) (Directory.noteError left text about)
      (Directory.noteError right text about) :=
  (pairing.log .error text about).onSecond

theorem currentUser (pairing : Pairing R host left right) :
    InStep (Beside R) (Directory.currentUser host) (Directory.currentUser host) := by
  unfold Directory.currentUser
  refine .state fun s t hsame => ?_
  rw [hsame]
  cases t.1 with
  | some user => exact .pure user
  | none =>
    refine pairing.names.onSecond.bind fun user => ?_
    exact (InStep.update (some user)).bind fun _ => .pure user

theorem listNames (pairing : Pairing R host left right) (strategy : AccountStrategy) :
    InStep R (strategy.listNames host.execute host.readFile)
      (strategy.listNames host.execute host.readFile) := by
  cases strategy with
  | records database => exact (pairing.reads database).bind fun bytes => .pure _
  | nameLines => exact (pairing.runLine _).bind fun output => .pure _
  | netTable => exact (pairing.runLine _).bind fun output => .ofExcept _

theorem listUsers (pairing : Pairing R host left right) (directory : Directory) :
    InStep (Beside R) (directory.listUsers host left) (directory.listUsers host right) := by
  unfold Directory.listUsers
  refine (pairing.listNames _).onSecond.attempt.bind fun outcome => ?_
  cases outcome with
  | ok names => exact .pure names
  | error fault => exact (pairing.noteError _ _).bind fun _ => .pure []

theorem userExists (pairing : Pairing R host left right) (directory : Directory) (user : String) :
    InStep (Beside R) (directory.userExists host user left)
      (directory.userExists host user right) :=
  (pairing.listUsers directory).bind fun _ => .pure _

theorem resolveGroup (pairing : Pairing R host left right) (directory : Directory) :
    InStep (Beside R) (directory.resolveGroup host left) (directory.resolveGroup host right) := by
  unfold Directory.resolveGroup
  refine pairing.currentUser.bind fun user => ?_
  refine (pairing.runLine _).onSecond.bind fun output => ?_
  cases directory.platform.parseGroup output with
  | ok group => exact .pure group
  | error fault => exact (pairing.noteError _ _).bind fun _ => .pure ""

theorem requireGroup (pairing : Pairing R host left right) (directory : Directory) :
    InStep (Beside R) (directory.requireGroup host left) (directory.requireGroup host right) := by
  unfold Directory.requireGroup
  refine (pairing.resolveGroup directory).bind fun group => ?_
  split
  · exact pairing.currentUser.bind fun user => .fail _
  · exact .pure group

/-- The steps go in step, up to the first failure in both runs. -/
theorem runSteps (pairing : Pairing R host left right) (user : String) (steps : List Step) :
    InStep R (Directory.runSteps host.execute left user steps)
      (Directory.runSteps host.execute right user steps) := by
  induction steps with
  | nil => exact .pure []
  | cons step rest ih =>
    refine (pairing.log .info _ none).bind fun _ => ?_
    refine (pairing.runLine step.command).attempt.bind fun outcome => ?_
    cases outcome with
    | ok output => exact ih.bind fun outcomes => .pure _
    | error fault => exact (pairing.log .error _ (some fault)).bind fun _ => .pure _

theorem notePartial (pairing : Pairing R host left right) (report : Report) :
    InStep R (Directory.notePartial left report) (Directory.notePartial right report) := by
  unfold Directory.notePartial
  cases report.partiallyApplied with
  | false => exact .pure ()
  | true =>
    cases report.failedStep with
    | none => exact .pure ()
    | some failed => exact pairing.log .warning _ none

theorem provision (pairing : Pairing R host left right) (directory : Directory) (user : String) :
    InStep (Beside R) (directory.provision host user left)
      (directory.provision host user right) := by
  unfold Directory.provision
  refine (pairing.requireGroup directory).attempt.bind fun outcome => ?_
  cases outcome with
  | error fault => exact (pairing.noteError _ none).bind fun _ => .pure _
  | ok group =>
    refine (pairing.noteInfo _).bind fun _ => ?_
    refine (pairing.runSteps user _).onSecond.bind fun outcomes => ?_
    exact (pairing.notePartial _).onSecond.bind fun _ => .pure _

theorem createUser (pairing : Pairing R host left right) (directory : Directory) (user : String) :
    InStep (Beside R) (directory.createUser host user left)
      (directory.createUser host user right) := by
  unfold Directory.createUser
  refine (pairing.provision directory user).attempt.bind fun outcome => ?_
  cases outcome with
  | ok report => exact .pure report.succeeded
  | error fault => exact (pairing.noteError _ _).bind fun _ => .pure false

theorem ensureUser (pairing : Pairing R host left right) (directory : Directory) (user : String) :
    InStep (Beside R) (directory.ensureUser host user left)
      (directory.ensureUser host user right) := by
  unfold Directory.ensureUser
  refine (pairing.userExists directory user).bind fun listed => ?_
  cases listed with
  | true => exact .pure true
  | false =>
    refine (pairing.createUser directory user).bind fun created => ?_
    exact (pairing.noteInfo _).bind fun _ => .pure created

end Pairing

/-- What a directory can be asked to do on behalf of a task. -/
inductive Operation where
  | listUsers
  | userExists (user : String)
  | resolveGroup
  | provision (user : String)
  | createUser (user : String)
  | ensureUser (user : String)
  deriving DecidableEq, Repr

namespace Operation

/-- What an operation answers with. -/
def Answer : Operation → Type
  | .listUsers => List String
  | .userExists _ => Bool
  | .resolveGroup => String
  | .provision _ => Report
  | .createUser _ => Bool
  | .ensureUser _ => Bool

/-- Carries an operation out. -/
def run (directory : Directory) (host : Host σ) (task : Option TaskJournal) :
    (operation : Operation) → DirectoryAction σ operation.Answer
  | .listUsers => directory.listUsers host task
  | .userExists user => directory.userExists host user task
  | .resolveGroup => directory.resolveGroup host task
  | .provision user => directory.provision host user task
  | .createUser user => directory.createUser host user task
  | .ensureUser user => directory.ensureUser host user task

end Operation

/-- **Every operation goes in step** if the lines and what is asked of the host do. -/
theorem Pairing.operation {R : World σ → World σ → Prop} {host : Host σ}
    {left right : Option TaskJournal} (pairing : Pairing R host left right) (directory : Directory)
    (operation : Operation) :
    InStep (Beside R) (operation.run directory host left) (operation.run directory host right) := by
  cases operation with
  | listUsers => exact pairing.listUsers directory
  | userExists user => exact pairing.userExists directory user
  | resolveGroup => exact pairing.resolveGroup directory
  | provision user => exact pairing.provision directory user
  | createUser user => exact pairing.createUser directory user
  | ensureUser user => exact pairing.ensureUser directory user

/-! ## Tasks -/

/-- A task whose channel is the directory's own makes no difference. -/
theorem pairing_of_same {task : TaskJournal} (h : task.channel = .users) (host : Host σ) :
    Pairing Eq host (some task) none where
  execute argv := by
    rintro s t rfl
    exact ⟨rfl, rfl⟩
  names := by
    rintro s t rfl
    exact ⟨rfl, rfl⟩
  reads path := by
    rintro s t rfl
    exact ⟨rfl, rfl⟩
  write line _ := by
    rintro s t rfl
    exact ⟨rfl, rfl⟩
  log level text about := by
    rintro s t rfl
    have hcopy : (Directory.log (some task)).copy (σ := σ) level text about = pure () := if_pos h
    unfold TaskLog.write
    rw [hcopy]
    exact ⟨rfl, rfl⟩

/-- A task that accepts its lines gets copies, and makes no other difference. -/
theorem pairing_of_accepting {host : Host σ} (hhost : host.execute.AddsElsewhere .users)
    {task : TaskJournal} (htask : Accepting (some task)) (start : List Line) :
    Pairing (Mirrors (Directory.log (some task)) start) host (some task) none where
  execute argv := (hhost argv).inStep
  names := (World.ask_addsElsewhere _ _).inStep
  reads _ := (World.ask_addsElsewhere _ _).inStep
  write _ hline := (World.write_addsElsewhere hline).inStep
  log level text about := (Directory.log (some task)).write_inStep htask start level text about

/-- **A task's journal mirrors the lines of the directory and changes nothing else.** The two runs
have the same outcome and leave the same behind but for the journal. There the task's copy stands
right behind each line of the directory, and nothing else is new; so the lines on every other
channel are the same, and those on the task's channel are the copies if nothing else is written
there. A task whose channel is the directory's own makes no difference at all. -/
theorem operation_mirrored (directory : Directory) {host : Host σ}
    (hhost : host.execute.AddsElsewhere .users) {task : TaskJournal} (htask : Accepting (some task))
    (operation : Operation) (s : Option String × World σ) :
    (task.channel = .users →
      operation.run directory host (some task) s = operation.run directory host none s) ∧
    (task.channel ≠ .users → ∃ outcome known outside calls lines,
      operation.run directory host none s
          = (outcome, (known, ⟨outside, s.2.journal ++ lines, calls⟩)) ∧
        operation.run directory host (some task) s
          = (outcome, (known,
              ⟨outside, s.2.journal ++ (log (some task)).mirrored lines, calls⟩)) ∧
        (∀ channel, channel ≠ task.channel →
          linesOn channel ((log (some task)).mirrored lines) = linesOn channel lines) ∧
        ((∀ line ∈ lines, line.channel ≠ task.channel) →
          linesOn task.channel ((log (some task)).mirrored lines)
            = (linesOn .users lines).map (TaskLog.copiedFor task))) := by
  constructor
  · intro hsame
    have hstep := (pairing_of_same hsame host).operation directory operation s s ⟨rfl, rfl⟩
    obtain ⟨houtcome, hknown, hworld⟩ := hstep
    exact Prod.ext houtcome (Prod.ext hknown hworld)
  · intro hown
    have hstep := (pairing_of_accepting hhost htask s.2.journal).operation directory operation s s
      ⟨rfl, Mirrors.refl _ s.2⟩
    rcases hplain : operation.run directory host none s with
      ⟨outcome, known, outside, journal, calls⟩
    rcases hmirrored : operation.run directory host (some task) s
      with ⟨outcome', known', outside', journal', calls'⟩
    rw [hplain, hmirrored] at hstep
    obtain ⟨houtcome, hknown, houtside, hcalls, lines, hjournal, hjournal'⟩ := hstep
    obtain rfl : outcome' = outcome := houtcome
    obtain rfl : known' = known := hknown
    obtain rfl : outside' = outside := houtside
    obtain rfl : calls' = calls := hcalls
    obtain rfl : journal = s.2.journal ++ lines := hjournal
    obtain rfl : journal' = s.2.journal ++ (log (some task)).mirrored lines := hjournal'
    refine ⟨outcome', known', outside', calls', lines, rfl, rfl, ?_, ?_⟩
    · intro channel hchannel
      exact TaskLog.linesOn_mirrored_of_ne .users hchannel lines
    · intro helsewhere
      exact TaskLog.linesOn_mirrored_task hown helsewhere

/-- A task that accepts its lines, with a channel of its own. -/
def ownTask : TaskJournal :=
  ⟨⟨"task"⟩, fun _ => none⟩

/-- The journal of a run on a host that answers nothing. -/
def silentJournal (task : Option TaskJournal) : List Line :=
  ((Operation.ensureUser "alice").run ⟨.linux, false, ⟨.root, []⟩⟩ (Host.ofUser "root") task
    (none, .start ())).2.2.journal

theorem silentJournal_channels :
    (silentJournal none).map Line.channel = [.users, .commands, .users, .users] := by
  decide +kernel

/-- An account that can neither be listed nor created on a host that answers nothing: the three
lines that say so are copied for the task, and the line about the command is not. -/
theorem silentJournal_mirrored :
    linesOn ownTask.channel (silentJournal (some ownTask))
        = (linesOn .users (silentJournal none)).map (TaskLog.copiedFor ownTask) ∧
      linesOn .commands (silentJournal (some ownTask)) = linesOn .commands
        (silentJournal none) := by
  have hhost : (Host.ofUser (σ := Unit) "root").execute.AddsElsewhere .users :=
    Executor.ofParty_addsElsewhere _ _
  have hmirrored := operation_mirrored ⟨.linux, false, ⟨.root, []⟩⟩ hhost
    (accepting_unrefusing ⟨"task"⟩) (.ensureUser "alice") (none, .start ())
  obtain ⟨outcome, known, outside, calls, lines, hplain, htask, hothers, hcopies⟩ :=
    hmirrored.2 (by decide)
  have hlines : silentJournal none = lines := by
    rw [silentJournal, hplain]
    rfl
  have hcopied : silentJournal (some ownTask) = (log (some ownTask)).mirrored lines := by
    rw [silentJournal, ownTask, htask]
    rfl
  rw [hlines, hcopied]
  refine ⟨hcopies ?_, hothers .commands (by decide)⟩
  intro line hline
  have hchannel : line.channel ∈ (silentJournal none).map Line.channel := by
    rw [hlines]
    exact List.mem_map_of_mem hline
  rw [silentJournal_channels] at hchannel
  intro hsame
  rw [hsame] at hchannel
  exact absurd hchannel (by decide)

end Directory

end TenantHost
