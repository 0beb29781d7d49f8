import Mathlib.Data.List.Induction
import TenantHost.Proofs.Account.Mirroring
import TenantHost.Proofs.Account.Refusals
/-!
# Retrying to create an account

On macOS and Windows an account is created by one command and joins its group by another. If only
the first one succeeds, the attempt fails and nothing is undone; the account is listed from then on,
so the next attempt finds it there and runs no command at all. An account that is said to exist may
thus be half created, but only after an attempt at it has failed, or if somebody else has added it.
The journals of the tasks make no difference to that, be it that they refuse lines.
-/

namespace TenantHost.Account

/-! ## Commands that have succeeded -/

/-- That commands create an account, in whatever group: the first step is among them. -/
def Creates (platform : Platform) (user : String) (argvs : List (List String)) : Prop :=
  ∃ group step, (platform.creationSteps user group).head? = some step ∧ step.argv ∈ argvs

/-- That commands create an account and let it join its group: every step is among them. -/
def Provisions (platform : Platform) (user : String) (argvs : List (List String)) : Prop :=
  ∃ group, group ≠ "" ∧ ∀ step ∈ platform.creationSteps user group, step.argv ∈ argvs

theorem Provisions.mono {platform : Platform} {user : String} {argvs more : List (List String)}
    (h : Provisions platform user argvs) (hmore : argvs ⊆ more) :
    Provisions platform user more := by
  obtain ⟨group, hgroup, hmem⟩ := h
  exact ⟨group, hgroup, fun step hstep => hmore (hmem step hstep)⟩

/-- The command that creates an account is none of those that list the accounts. -/
theorem argv_ne_listing {platform : Platform} {user group : String} {step : Step}
    (h : (platform.creationSteps user group).head? = some step) :
    (platform = .macos → step.argv ≠ ["dscl", ".", "list", "/users"]) ∧
      (platform = .windows → step.argv ≠ ["net", "user"]) := by
  have hargv := congrArg List.head? (Platform.map_argv_creationSteps platform user group)
  rw [List.head?_map, h] at hargv
  constructor
  · rintro rfl
    rw [Option.some.inj hargv]
    intro hsame
    have hprogram := congrArg List.head? hsame
    simp at hprogram
  · rintro rfl
    rw [Option.some.inj hargv]
    intro hsame
    have hlength := congrArg List.length hsame
    simp at hlength

/-- A host on which accounts are created by commands, with the commands that have succeeded on it so
far. -/
structure Roster (σ : Type) where
  directory : Directory
  commanded : directory.platform = .macos ∨ directory.platform = .windows
  host : Host σ
  party : List String → Action σ String
  user : String
  done : σ → List (List String)
  succeeds : ∀ {argv output o o'}, party argv o = (.ok output, o') → done o' = done o ++ [argv]
  fails : ∀ {argv fault o o'}, party argv o = (.error fault, o') → done o' = done o
  names : ∀ o, done (host.userName o).2 = done o
  reads : ∀ path o, done (host.readFile path o).2 = done o

namespace Roster

variable {σ : Type} (roster : Roster σ) {task : Option TaskJournal}
  {s s' : Option String × World σ}

/-- Ensuring the account. -/
def ensure (task : Option TaskJournal) : DirectoryAction σ Bool :=
  roster.directory.ensureUser (roster.host.withParty roster.party) roster.user task

/-- What is left after ensuring the account some times in a row, each time for another task,
whatever the calls come to. -/
def after (tasks : List (Option TaskJournal)) (s : Option String × World σ) :
    Option String × World σ :=
  tasks.foldl (fun s task => (roster.ensure task s).2) s

@[simp] theorem after_nil (s : Option String × World σ) : roster.after [] s = s := rfl

@[simp] theorem after_concat (tasks : List (Option TaskJournal)) (task : Option TaskJournal)
    (s : Option String × World σ) :
    roster.after (tasks ++ [task]) s = (roster.ensure task (roster.after tasks s)).2 := by
  simp [after]

/-- Listing the accounts. -/
def listing : Action (World σ) (List String) :=
  (roster.directory.platform.strategy roster.directory.database).listNames (.ofParty roster.party)
    roster.host.readFile

/-- The account has been created. -/
def Created (s : Option String × World σ) : Prop :=
  Creates roster.directory.platform roster.user (roster.done s.2.outside)

/-- The account has been created and has joined its group. -/
def Provisioned (s : Option String × World σ) : Prop :=
  Provisions roster.directory.platform roster.user (roster.done s.2.outside)

/-- The account is listed though no command has created it: somebody else has added it. -/
def AddedElsewhere (s : Option String × World σ) : Prop :=
  (∃ names w, roster.listing s.2 = (.ok names, w) ∧ roster.user ∈ names) ∧
    ¬ roster.Created s

/-- The account is listed just when the command that creates it has succeeded: nobody else adds it,
and nobody removes it. -/
def ListsCreated : Prop :=
  ∀ {s : Option String × World σ} {names w}, roster.listing s.2 = (.ok names, w) →
    (roster.user ∈ names ↔ roster.Created s)

/-- The account was created in one of some calls in a row that did not answer yes: it answered no,
or a line was refused. -/
def FailedHalfway (tasks : List (Option TaskJournal)) (s : Option String × World σ) : Prop :=
  ∃ earlier task later, tasks = earlier ++ task :: later ∧
    (roster.ensure task (roster.after earlier s)).1 ≠ .ok true ∧
    (Accepting task → (roster.ensure task (roster.after earlier s)).1 = .ok false) ∧
    ¬ roster.Created (roster.after earlier s) ∧ roster.Created (roster.after (earlier ++ [task]) s)

theorem ListsCreated.not_addedElsewhere {roster : Roster σ} (h : roster.ListsCreated)
    (s : Option String × World σ) : ¬ roster.AddedElsewhere s := by
  rintro ⟨⟨names, w, hlisting, hmem⟩, hnone⟩
  exact hnone ((h hlisting).mp hmem)

/-! ## Parties -/

/-- A command was run: it has succeeded since, or nothing has. -/
def Ran (argv : List String) (o o' : σ) : Prop :=
  roster.done o' = roster.done o ∨ roster.done o' = roster.done o ++ [argv]

theorem ran_party {argv : List String} {o o' : σ} {answer : Except Fault String}
    (h : roster.party argv o = (answer, o')) : roster.Ran argv o o' := by
  cases answer with
  | error fault => exact .inl (roster.fails h)
  | ok output => exact .inr (roster.succeeds h)

/-- What has succeeded stays so. -/
theorem Ran.subset {roster : Roster σ} {argv : List String} {o o' : σ}
    (h : roster.Ran argv o o') :
    roster.done o ⊆ roster.done o' := by
  rcases h with hsame | hmore
  · exact hsame ▸ List.Subset.refl _
  · exact hmore ▸ List.subset_append_left _ _

/-- What creates the account after a command that does not, created it before. -/
theorem Ran.creates {roster : Roster σ} {argv : List String} {o o' : σ} (h : roster.Ran argv o o')
    {platform : Platform} {user : String}
    (hother : ∀ {group step}, (platform.creationSteps user group).head? = some step →
      step.argv ≠ argv)
    (hcreates : Creates platform user (roster.done o')) :
    Creates platform user (roster.done o) := by
  obtain ⟨group, step, hstep, hmem⟩ := hcreates
  refine ⟨group, step, hstep, ?_⟩
  rcases h with hsame | hmore
  · exact hsame ▸ hmem
  · rw [hmore] at hmem
    exact (List.mem_append.mp hmem).resolve_right fun hlast =>
      hother hstep (List.mem_singleton.mp hlast)

theorem done_subset_answers (argvs : List (List String)) (o : σ) :
    roster.done o ⊆ roster.done (Executor.answers roster.party argvs o).2 := by
  induction argvs generalizing o with
  | nil => exact List.Subset.refl _
  | cons argv argvs ih =>
    exact List.Subset.trans (roster.ran_party rfl).subset (ih _)

/-- Commands that all gave an output have succeeded. -/
theorem mem_done_of_answers {argvs : List (List String)} {o after : σ} {outputs : List String}
    (h : Executor.answers roster.party argvs o = (outputs.map Except.ok, after)) :
    argvs ⊆ roster.done after := by
  induction argvs generalizing o outputs with
  | nil => exact List.nil_subset _
  | cons argv argvs ih =>
    obtain ⟨houtputs, hafter⟩ := Prod.mk.inj h
    cases outputs with
    | nil => exact absurd houtputs (List.cons_ne_nil _ _)
    | cons output outputs =>
      obtain ⟨hfirst, hrest⟩ := List.cons.inj houtputs
      have hok : roster.party argv o = (.ok output, (roster.party argv o).2) := Prod.ext hfirst rfl
      have hmem : argv ∈ roster.done (roster.party argv o).2 := by
        rw [roster.succeeds hok]
        exact List.mem_append_right _ List.mem_cons_self
      have hgrow := roster.done_subset_answers argvs (roster.party argv o).2
      rw [hafter] at hgrow
      refine List.cons_subset.mpr ⟨hgrow hmem, ?_⟩
      exact ih (o := (roster.party argv o).2) (Prod.ext hrest hafter)

/-! ## What has succeeded stays so -/

/-- The same world twice, in which a command has succeeded. -/
def Remains (argv : List String) (w w' : World σ) : Prop :=
  w = w' ∧ argv ∈ roster.done w.outside

/-- No part of what a directory does undoes a command. -/
theorem pairing_remains (argv : List String) (task : Option TaskJournal) :
    Directory.Pairing (roster.Remains argv) (roster.host.withParty roster.party) task task where
  execute other := by
    rintro w _ ⟨rfl, hmem⟩
    exact ⟨rfl, rfl, (roster.ran_party rfl).subset hmem⟩
  names := by
    rintro w _ ⟨rfl, hmem⟩
    exact ⟨rfl, rfl, (roster.names w.outside).symm ▸ hmem⟩
  reads path := by
    rintro w _ ⟨rfl, hmem⟩
    exact ⟨rfl, rfl, (roster.reads path w.outside).symm ▸ hmem⟩
  write line _ := by
    rintro w _ ⟨rfl, hmem⟩
    exact ⟨rfl, rfl, hmem⟩
  log level text about := by
    rintro w _ ⟨rfl, hmem⟩
    refine ⟨rfl, rfl, ?_⟩
    rwa [TaskLog.outside_write]

theorem done_subset_ensure (task : Option TaskJournal) (s : Option String × World σ) :
    roster.done s.2.outside ⊆ roster.done (roster.ensure task s).2.2.outside := by
  intro argv hmem
  have hstep := (roster.pairing_remains argv task).ensureUser roster.directory roster.user s s
    ⟨rfl, rfl, hmem⟩
  exact hstep.2.2.2

/-! ## Creating -/

/-- If an attempt has succeeded, every step of the creation has. -/
theorem provisions_of_succeeded {attempt : Attempt σ} (hparty : attempt.party = roster.party)
    {ending : Attempt.Ending} (h : attempt.EndsIn ending)
    (hsucceeded : attempt.report.succeeded = true) :
    Provisions attempt.report.platform attempt.report.user (roster.done attempt.after) := by
  cases ending with
  | groupless =>
    rw [Attempt.Groupless.succeeded h] at hsucceeded
    cases hsucceeded
  | complete =>
    obtain ⟨argvs, middle, hplanned, outputs, -, -, rfl, hanswers⟩ := h
    rw [hparty] at hanswers
    refine ⟨attempt.report.group, hplanned.group, fun step hstep => ?_⟩
    rw [← hplanned.planned] at hstep
    exact roster.mem_done_of_answers hanswers (List.mem_map_of_mem hstep)
  | stopped place =>
    rw [Attempt.Stopped.succeeded h] at hsucceeded
    cases hsucceeded

/-- An account is created only if every step of the creation has succeeded. What the task's journal
refuses does not matter, since the run is that for a journal which refuses nothing. -/
theorem provisioned_of_createUser
    (h : roster.directory.createUser (roster.host.withParty roster.party) roster.user task s
      = (.ok true, s')) : roster.Provisioned s' := by
  obtain ⟨-, hplain⟩ := Directory.createUser_eq_true_iff_unrefusing.mp h
  obtain ⟨attempt, known, journal, ending, hrun, huser, hplatform, hparty, -, hends⟩ :=
    Directory.provision_apply roster.directory roster.host roster.party roster.user
      (accepting_map_unrefusing task) s
  have hsame := hplain.symm.trans (Directory.createUser_of_provision hrun)
  have hsucceeded : true = attempt.report.succeeded := Except.ok.inj (congrArg Prod.fst hsame)
  have hprovisions := roster.provisions_of_succeeded hparty hends hsucceeded.symm
  obtain rfl : s' = _ := congrArg Prod.snd hsame
  rwa [huser, hplatform] at hprovisions

theorem provisioned_of_createNoted
    (h : roster.directory.createNoted (roster.host.withParty roster.party) roster.user task s
      = (.ok true, s')) : roster.Provisioned s' := by
  obtain ⟨made, created, hcreate, hrest⟩ := Action.bind_eq_ok_iff.mp h
  obtain ⟨_, noted, hnote, hdone⟩ := Action.bind_eq_ok_iff.mp hrest
  obtain ⟨hmade, rfl⟩ := Prod.mk.inj hdone
  obtain rfl : made = true := Except.ok.inj hmade
  have hsame : created.2.outside = noted.2.outside := by
    have houtside := congrArg (fun run => run.2.2.outside) hnote
    simpa [Directory.noteInfo, TaskLog.info] using houtside
  have hprovisioned := roster.provisioned_of_createUser hcreate
  rwa [Provisioned, hsame] at hprovisioned

/-! ## Listing -/

/-- What is made of the output of a command changes nothing outside. -/
theorem runLine_bind_apply {line : String} {argv : List String}
    (htokens : Command.tokenize line = argv)
    (hargv : argv ≠ []) (next : String → Except Fault (List String)) (w : World σ) :
    ∃ outcome w', ((Executor.ofParty roster.party).runLine line >>= fun output =>
        Action.ofExcept (next output)) w = (outcome, w') ∧
      roster.Ran argv w.outside w'.outside := by
  obtain ⟨journal, hrun⟩ := Executor.exists_runLine_ofParty roster.party htokens hargv w
  rcases hanswer : roster.party argv w.outside with ⟨fault | output, after⟩ <;>
    rw [hanswer] at hrun
  · exact ⟨_, _, Action.bind_error hrun, roster.ran_party hanswer⟩
  · exact ⟨_, _, Action.bind_ok hrun, roster.ran_party hanswer⟩

/-- Listing runs one command, which creates no account. -/
theorem listing_apply (w : World σ) :
    ∃ argv outcome w', roster.listing w = (outcome, w') ∧
      roster.Ran argv w.outside w'.outside ∧
      ∀ {group step}, (roster.directory.platform.creationSteps roster.user group).head?
        = some step →
        step.argv ≠ argv := by
  unfold listing
  rcases roster.commanded with hplatform | hplatform
  · obtain ⟨outcome, w', hrun, hran⟩ := roster.runLine_bind_apply
      (by decide : Command.tokenize "dscl . list /users" = ["dscl", ".", "list", "/users"])
      (List.cons_ne_nil _ _) (fun output => .ok (AccountStrategy.namesInLines output)) w
    rw [hplatform]
    exact ⟨_, outcome, w', hrun, hran, fun hstep => (argv_ne_listing hstep).1 rfl⟩
  · obtain ⟨outcome, w', hrun, hran⟩ := roster.runLine_bind_apply
      (by decide : Command.tokenize "net user" = ["net", "user"]) (List.cons_ne_nil _ _)
      (fun output => (tableNames output.toList).map fun names => names.map String.ofList) w
    rw [hplatform]
    exact ⟨_, outcome, w', hrun, hran, fun hstep => (argv_ne_listing hstep).2 rfl⟩

/-- Accounts are named only if they are listed. -/
theorem listing_of_mem_listUsers {names : List String}
    (h : roster.directory.listUsers (roster.host.withParty roster.party) task s = (.ok names, s'))
    (hmem : roster.user ∈ names) : ∃ w, roster.listing s.2 = (.ok names, w) ∧ s' = (s.1, w) := by
  rcases hlist : roster.listing s.2 with ⟨fault | found, w⟩
  · -- no account is named when they cannot be listed
    have hlisting : roster.directory.listing (roster.host.withParty roster.party) s
        = (.error fault, (s.1, w)) := Action.onSecond_of hlist
    rw [Directory.listUsers_of_fault hlisting] at h
    obtain ⟨_, _, -, hnone⟩ := Action.bind_eq_ok_iff.mp h
    obtain rfl : [] = names := Except.ok.inj (congrArg Prod.fst hnone)
    exact absurd hmem List.not_mem_nil
  · have hnames : roster.directory.listUsers (roster.host.withParty roster.party) task s
        = (.ok found, (s.1, w)) := Directory.listUsers_of_listing (Action.onSecond_of hlist)
    have hsame := hnames.symm.trans h
    obtain rfl : found = names := Except.ok.inj (congrArg Prod.fst hsame)
    exact ⟨w, rfl, (congrArg Prod.snd hsame).symm⟩

/-! ## One call -/

/-- **One call answers with yes only if the account is found there and nothing is created, or if
every step of the creation has succeeded.** -/
theorem of_ensure_yes (h : roster.ensure task s = (.ok true, s')) :
    roster.Provisioned s' ∨ (roster.Created s' → roster.Created s) ∧
      (roster.Created s ∨ roster.AddedElsewhere s) := by
  rcases hnames : roster.directory.listUsers (roster.host.withParty roster.party) task s
    with ⟨fault | names, t⟩
  · have hfails : roster.ensure task s = (.error fault, t) := by
      simp [ensure, Directory.ensureUser, Directory.userExists, hnames]
    rw [hfails] at h
    cases h
  · by_cases hmem : roster.user ∈ names
    · right
      have hlisted : roster.ensure task s = (.ok true, t) :=
        Directory.ensureUser_of_listed hnames hmem
      obtain rfl : t = s' := congrArg Prod.snd (hlisted.symm.trans h)
      obtain ⟨w, hlist, rfl⟩ := roster.listing_of_mem_listUsers hnames hmem
      obtain ⟨argv, outcome, w', hlist', hran, hother⟩ := roster.listing_apply s.2
      obtain rfl : w = w' := congrArg Prod.snd (hlist.symm.trans hlist')
      refine ⟨hran.creates hother, ?_⟩
      exact Classical.or_iff_not_imp_left.mpr fun hnone => ⟨⟨names, w, hlist, hmem⟩, hnone⟩
    · rw [ensure, Directory.ensureUser_of_unlisted hnames hmem] at h
      exact .inl (roster.provisioned_of_createNoted h)

/-- Where no line is refused, a call answers. -/
theorem exists_answer (htask : Accepting task) (s : Option String × World σ) :
    ∃ made, (roster.ensure task s).1 = .ok made := by
  have haccepts := Directory.accepts_of_accepting htask
  exact Directory.ensureUser_answersJustIf.answers.mpr
    (.inr ⟨haccepts .info, .inl (haccepts .error)⟩)

/-! ## Sessions -/

theorem FailedHalfway.append {roster : Roster σ} {tasks : List (Option TaskJournal)}
    (h : roster.FailedHalfway tasks s) (more : List (Option TaskJournal)) :
    roster.FailedHalfway (tasks ++ more) s := by
  obtain ⟨earlier, task, later, rfl, hfailed⟩ := h
  exact ⟨earlier, task, later ++ more, by simp, hfailed⟩

/-- After any number of calls an account that has been created has joined its group as well, or one
of the calls failed halfway. -/
theorem provisioned_or_failedHalfway {tasks : List (Option TaskJournal)}
    (hnone : ¬ roster.Created s) (hcreated : roster.Created (roster.after tasks s)) :
    roster.Provisioned (roster.after tasks s) ∨ roster.FailedHalfway tasks s := by
  -- a call either finds the account there and creates nothing, so that the calls before it answer
  -- for what has been created, or it goes through the steps itself
  induction tasks using List.reverseRecOn with
  | nil => exact absurd hcreated hnone
  | append_singleton tasks task ih =>
    by_cases hbefore : roster.Created (roster.after tasks s)
    · -- it was there before the last call
      rcases ih hbefore with hprovisioned | hfailed
      · rw [after_concat]
        exact .inl (hprovisioned.mono (roster.done_subset_ensure task _))
      · exact .inr (hfailed.append [task])
    · by_cases hyes : (roster.ensure task (roster.after tasks s)).1 = .ok true
      · have hensure : roster.ensure task (roster.after tasks s)
            = (.ok true, roster.after (tasks ++ [task]) s) := by
          rw [after_concat]
          exact Prod.ext hyes rfl
        rcases roster.of_ensure_yes hensure with hprovisioned | ⟨hsame, -⟩
        · exact .inl hprovisioned
        · exact absurd (hsame hcreated) hbefore
      · refine .inr ⟨tasks, task, [], rfl, hyes, fun htask => ?_, hbefore, hcreated⟩
        obtain ⟨made, hmade⟩ := roster.exists_answer htask (roster.after tasks s)
        cases made with
        | true => exact absurd hmade hyes
        | false => exact hmade

/-- **An account that is said to exist has been created and has joined its group, unless a call
before failed halfway or somebody else has added it.** However often the account is ensured, and
whatever lines are refused, if it was not created at the start: when the answer is yes, every step
of the creation has succeeded, or the account came to be in a call that did not answer yes, or the
last call found it listed though no command had created it. Where it is listed just when it has been
created, the last is never so. -/
theorem ensure_provisioned (tasks : List (Option TaskJournal)) (task : Option TaskJournal)
    (hnone : ¬ roster.Created s)
    (hyes : roster.ensure task (roster.after tasks s) = (.ok true, s')) :
    (roster.Provisioned s' ∨ roster.FailedHalfway tasks s ∨
        roster.AddedElsewhere (roster.after tasks s)) ∧
      (roster.ListsCreated → roster.Provisioned s' ∨ roster.FailedHalfway tasks s) := by
  have hanswer : roster.Provisioned s' ∨ roster.FailedHalfway tasks s ∨
      roster.AddedElsewhere (roster.after tasks s) := by
    rcases roster.of_ensure_yes hyes with hprovisioned | ⟨-, hbefore | hadded⟩
    · exact .inl hprovisioned
    · rcases roster.provisioned_or_failedHalfway hnone hbefore with hprovisioned | hfailed
      · have hgrow := roster.done_subset_ensure task (roster.after tasks s)
        rw [hyes] at hgrow
        exact .inl (hprovisioned.mono hgrow)
      · exact .inr (.inl hfailed)
    · exact .inr (.inr hadded)
  refine ⟨hanswer, fun hlists => ?_⟩
  rcases hanswer with hprovisioned | hfailed | hadded
  · exact .inl hprovisioned
  · exact .inr hfailed
  · exact absurd hadded (hlists.not_addedElsewhere _)

/-! ## Hosts whose answers depend on what has succeeded -/

/-- A party that answers by the commands that have succeeded, and remembers them. -/
def remembering (answer : List (List String) → List String → Except Fault String) :
    List String → Action (List (List String)) String :=
  fun argv done =>
    match answer done argv with
    | .ok output => (.ok output, done ++ [argv])
    | .error fault => (.error fault, done)

theorem remembering_ok {answer : List (List String) → List String → Except Fault String}
    {argv : List String} {output : String} {done done' : List (List String)}
    (h : remembering answer argv done = (.ok output, done')) : done' = done ++ [argv] := by
  unfold remembering at h
  cases hanswer : answer done argv with
  | ok text =>
    rw [hanswer] at h
    exact (congrArg Prod.snd h).symm
  | error fault =>
    rw [hanswer] at h
    cases h

theorem remembering_error {answer : List (List String) → List String → Except Fault String}
    {argv : List String} {fault : Fault} {done done' : List (List String)}
    (h : remembering answer argv done = (.error fault, done')) : done' = done := by
  unfold remembering at h
  cases hanswer : answer done argv with
  | ok text =>
    rw [hanswer] at h
    cases h
  | error fault =>
    rw [hanswer] at h
    exact (congrArg Prod.snd h).symm

/-- A macOS host that answers so, where "alice" is wanted. -/
def ofAnswer (answer : List (List String) → List String → Except Fault String) :
    Roster (List (List String)) where
  directory := ⟨.macos, false, ⟨.root, []⟩⟩
  commanded := .inl rfl
  host := Host.ofUser "root"
  party := remembering answer
  user := "alice"
  done := id
  succeeds h := remembering_ok h
  fails h := remembering_error h
  names _ := rfl
  reads _ _ := rfl

/-- The answers of a host on which somebody else adds "alice", once the accounts have been
listed. -/
def overtakenAnswer (done : List (List String)) : List String → Except Fault String
  | ["dscl", ".", "list", "/users"] => .ok (if done = [] then "root\n" else "root\nalice\n")
  | _ => .error Host.ofUser.silence

/-- There the second call says that the account exists, and no command but the listing has
succeeded. -/
example : ((ofAnswer overtakenAnswer).ensure none
        ((ofAnswer overtakenAnswer).after [none] (none, .start []))).1 = .ok true ∧
      ((ofAnswer overtakenAnswer).after [none, none] (none, .start [])).2.outside
        = [["dscl", ".", "list", "/users"], ["dscl", ".", "list", "/users"]] :=
  ⟨rfl, rfl⟩

/-! ### A host on which accounts join no group -/

/-- The command that creates the account "alice". -/
def aliceArgv : List String :=
  ["sudo", "sysadminctl", "-addUser", "alice", "-password", "alice"]

/-- The answers of a macOS host that creates accounts and cannot add them to a group. -/
def ungroupingAnswer (done : List (List String)) : List String → Except Fault String
  | ["dscl", ".", "list", "/users"] =>
    .ok (if aliceArgv ∈ done then "root\nalice\n" else "root\n")
  | ["groups"] => .ok "staff\n"
  | "sudo" :: "sysadminctl" :: _ => .ok ""
  | _ => .error Host.ofUser.silence

theorem creates_alice_iff {done : List (List String)} :
    Creates .macos "alice" done ↔ aliceArgv ∈ done := by
  have hargv : ∀ group step, (Platform.macos.creationSteps "alice" group).head? = some step →
      step.argv = aliceArgv := by
    intro group step hstep
    rw [← Option.some.inj hstep]
    decide
  constructor
  · rintro ⟨group, step, hstep, hmem⟩
    rwa [hargv group step hstep] at hmem
  · intro hmem
    refine ⟨"", _, rfl, ?_⟩
    rwa [hargv "" _ rfl]

theorem listNames_ungrouping {w w' : World (List (List String))} {names : List String}
    (h : AccountStrategy.nameLines.listNames (.ofParty (remembering ungroupingAnswer))
      (Host.ofUser "root").readFile w = (.ok names, w')) :
    names = if aliceArgv ∈ w.outside then ["root", "alice"] else ["root"] := by
  obtain ⟨journal, hrun⟩ := Executor.exists_runLine_ofParty (remembering ungroupingAnswer)
    (by decide : Command.tokenize "dscl . list /users" = ["dscl", ".", "list", "/users"])
    (List.cons_ne_nil _ _) w
  have hlist := (Action.bind_ok hrun).symm.trans h
  have hnames := Except.ok.inj (congrArg Prod.fst hlist)
  rw [← hnames]
  by_cases hmem : aliceArgv ∈ w.outside
  · rw [if_pos hmem, if_pos hmem]
    decide
  · rw [if_neg hmem, if_neg hmem]
    decide

/-- A macOS host on which "alice" can be created but joins no group. -/
def ungrouping : Roster (List (List String)) :=
  ofAnswer ungroupingAnswer

theorem listsCreated_ungrouping : ungrouping.ListsCreated := by
  intro s names w h
  rw [listNames_ungrouping h]
  refine Iff.trans ?_ creates_alice_iff.symm
  by_cases hmem : aliceArgv ∈ s.2.outside
  · exact iff_of_true (by rw [if_pos hmem]; decide) hmem
  · exact iff_of_false (by rw [if_neg hmem]; decide) hmem

/-- The journal of a task. -/
def taskOf (name : String) : Option TaskJournal :=
  some ⟨⟨name⟩, fun _ => none⟩

/-- The commands that have succeeded after two calls: the account is created, and then found in the
listing. -/
def ungroupingDone : List (List String) :=
  [["dscl", ".", "list", "/users"], ["groups"], aliceArgv, ["dscl", ".", "list", "/users"]]

theorem ungrouping_calls :
    (ungrouping.ensure (taskOf "first") (none, .start [])).1 = .ok false ∧
      ∃ s', ungrouping.ensure (taskOf "second")
          (ungrouping.after [taskOf "first"] (none, .start [])) = (.ok true, s') ∧
        s'.2.outside = ungroupingDone :=
  ⟨rfl, _, rfl, rfl⟩

theorem ungrouping_not_created : ¬ ungrouping.Created (none, .start []) := by
  intro hcreated
  exact absurd (creates_alice_iff.mp hcreated) List.not_mem_nil

theorem ungrouping_not_provisions : ¬ Provisions .macos "alice" ungroupingDone := by
  rintro ⟨group, -, hsteps⟩
  have hmap := Platform.map_argv_creationSteps .macos "alice" group
  have hjoin : ∃ step ∈ Platform.macos.creationSteps "alice" group, step.argv
      = ["sudo", "dseditgroup", "-o", "edit", "-a"] ++ Command.tokenize "alice" ++ ["-t", "user"]
        ++ Command.tokenize group := by
    rw [← List.mem_map, hmap]
    exact List.mem_cons_of_mem _ List.mem_cons_self
  obtain ⟨step, hstep, hargv⟩ := hjoin
  -- no command that has succeeded is one that adds to a group
  have hother : ∀ argv ∈ ungroupingDone, argv[1]? ≠ some "dseditgroup" := by decide
  apply hother step.argv (hsteps step hstep)
  rw [hargv]
  rfl

/-- The first call says no, and the second one that the account exists, though it has joined no
group. -/
theorem ensure_hides_ungrouped :
    ungrouping.ListsCreated ∧ ¬ ungrouping.Created (none, .start []) ∧
      (ungrouping.ensure (taskOf "first") (none, .start [])).1 = .ok false ∧
      ∃ s', ungrouping.ensure (taskOf "second")
          (ungrouping.after [taskOf "first"] (none, .start [])) = (.ok true, s') ∧
        ¬ ungrouping.Provisioned s' := by
  obtain ⟨hno, s', hyes, hdone⟩ := ungrouping_calls
  refine ⟨listsCreated_ungrouping, ungrouping_not_created, hno, s', hyes, fun hprovisioned => ?_⟩
  have hprovisions : Provisions .macos "alice" s'.2.outside := hprovisioned
  rw [hdone] at hprovisions
  exact ungrouping_not_provisions hprovisions

/-- It was the first call that failed halfway. -/
theorem ensure_failedHalfway_ungrouped :
    ungrouping.ListsCreated ∧ ¬ ungrouping.Created (none, .start []) ∧
      (∃ s', ungrouping.ensure (taskOf "second")
        (ungrouping.after [taskOf "first"] (none, .start [])) = (.ok true, s')) ∧
      ungrouping.FailedHalfway [taskOf "first"] (none, .start []) := by
  obtain ⟨-, s', hyes, hdone⟩ := ungrouping_calls
  refine ⟨listsCreated_ungrouping, ungrouping_not_created, ⟨s', hyes⟩, ?_⟩
  have hends := (ungrouping.ensure_provisioned [taskOf "first"] (taskOf "second")
    ungrouping_not_created hyes).2 listsCreated_ungrouping
  refine hends.resolve_left fun hprovisioned => ?_
  have hprovisions : Provisions .macos "alice" s'.2.outside := hprovisioned
  rw [hdone] at hprovisions
  exact ungrouping_not_provisions hprovisions

end Roster

end TenantHost.Account
