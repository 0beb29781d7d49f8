import TenantHost.Proofs.Account.Provisioning
/-!
# Argument boundaries of privileged commands

Which arguments the commands have that create an account, and those that run for a tenant. The group
comes out of a command's output and the name from whoever asks for the account. The group takes one
place in every command. The name takes one for each of its words, so it stands for itself just if it
is a word.
-/

namespace TenantHost

open Command

variable {σ : Type}

/-! ## The places of the name -/

namespace Platform

/-- A command that is the same for two names has the same arguments in the places of the name. -/
theorem creationArguments_inj {platform : Platform} {user other group : List String} {place : Nat}
    {argv : List String} (h : (platform.creationArguments user group)[place]? = some argv)
    (hother : (platform.creationArguments other group)[place]? = some argv) : user = other := by
  have hsame := h.trans hother.symm
  cases platform with
  | macos =>
    rcases place with _ | _ | place
    · -- the name stands twice, so the lengths have to agree first
      simp only [creationArguments, List.getElem?_cons_zero, Option.some.injEq, List.append_assoc,
        List.append_cancel_left_eq] at hsame
      have hlen := congrArg List.length hsame
      simp only [List.length_append] at hlen
      exact (List.append_inj hsame (by omega)).1
    · simp only [creationArguments, List.getElem?_cons_succ, List.getElem?_cons_zero,
        Option.some.injEq, List.append_assoc, List.append_cancel_left_eq,
        List.append_cancel_right_eq] at hsame
      exact hsame
    · exact absurd h (by simp [creationArguments])
  | windows =>
    rcases place with _ | _ | place
    · simp only [creationArguments, List.getElem?_cons_zero, Option.some.injEq, List.append_assoc,
        List.append_cancel_left_eq, List.append_cancel_right_eq] at hsame
      exact hsame
    · simp only [creationArguments, List.getElem?_cons_succ, List.getElem?_cons_zero,
        Option.some.injEq, List.append_assoc, List.append_cancel_left_eq,
        List.append_cancel_right_eq] at hsame
      exact hsame
    · exact absurd h (by simp [creationArguments])
  | linux | other =>
    rcases place with _ | place
    · simp only [creationArguments, List.getElem?_cons_zero, Option.some.injEq, List.append_assoc,
        List.append_cancel_left_eq] at hsame
      exact hsame
    · exact absurd h (by simp [creationArguments])

/-- A command that is handed over has the name as one argument just if the name is a word. -/
theorem creationArguments_eq_iff_isWord {platform : Platform} {user : String} {group : List String}
    {place : Nat} {argv : List String}
    (h : (platform.creationArguments (tokenize user) group)[place]? = some argv) :
    (platform.creationArguments [user] group)[place]? = some argv ↔ IsWord user := by
  constructor
  · intro hone
    exact tokenize_eq_singleton_iff.mp (creationArguments_inj h hone)
  · intro hword
    rwa [tokenize_eq_singleton hword] at h

end Platform

/-! ## Commands that are handed over -/

theorem AllDone.argvs_eq_take {party : List String → Action σ String} {steps : List Step}
    {before after : σ} {outcomes : List StepOutcome} {argvs : List (List String)}
    (h : AllDone party steps before after outcomes argvs) :
    argvs = (steps.map Step.argv).take outcomes.length := by
  have hlen := h.length_eq.1
  obtain ⟨outputs, -, -, rfl, -⟩ := h
  rw [hlen, List.take_of_length_le (by simp)]

theorem StoppedAt.argvs_eq_take {place : Nat} {party : List String → Action σ String}
    {steps : List Step} {before after : σ} {outcomes : List StepOutcome}
    {argvs : List (List String)} (h : StoppedAt place party steps before after outcomes argvs) :
    argvs = (steps.map Step.argv).take outcomes.length := by
  obtain ⟨good, failed, houtcomes, hgood, -, -⟩ := h.exists_append
  obtain ⟨step, outputs, fault, -, -, -, rfl, -⟩ := h
  rw [houtcomes, List.length_append, hgood, List.length_singleton, List.map_take]

namespace Attempt

variable {attempt : Attempt σ}

/-- Behind the group command there is one command for each outcome, and there is at least one. -/
theorem EndsIn.exists_planned {ending : Ending} (h : attempt.EndsIn ending)
    (hgroup : attempt.report.groupError = none) :
    ∃ argvs middle, attempt.Planned argvs middle ∧ 0 < attempt.report.outcomes.length ∧
      argvs = (attempt.report.planned.map Step.argv).take attempt.report.outcomes.length := by
  cases ending with
  | groupless => exact absurd hgroup h.groupError
  | complete =>
    obtain ⟨argvs, middle, hplanned, hdone⟩ := h
    refine ⟨argvs, middle, hplanned, ?_, hdone.argvs_eq_take⟩
    rw [hdone.length_eq.1, hplanned.planned]
    exact List.length_pos_iff.mpr (Platform.creationSteps_ne_nil _ _ _)
  | stopped place =>
    have hlen := Stopped.length_outcomes h
    obtain ⟨argvs, middle, hplanned, hstop⟩ := h
    refine ⟨argvs, middle, hplanned, ?_, hstop.argvs_eq_take⟩
    omega

/-- The group of a plan is a word. -/
theorem Planned.isWord_group {argvs : List (List String)} {middle : σ}
    (h : attempt.Planned argvs middle) : IsWord attempt.report.group := by
  obtain ⟨argv, answer, -, -, hnamed⟩ := h.asked
  exact Platform.isWord_of_groupNamed hnamed

/-- The planned commands, with the group as one argument of each. -/
theorem Planned.map_argv {argvs : List (List String)} {middle : σ}
    (h : attempt.Planned argvs middle) :
    attempt.report.planned.map Step.argv
      = attempt.report.platform.creationArguments (tokenize attempt.report.user)
        [attempt.report.group] := by
  rw [h.planned, Platform.map_argv_creationSteps, tokenize_eq_singleton h.isWord_group]

end Attempt

namespace Directory

/-- The arguments of a tenant's command, and when the tenant is one of them. -/
theorem tokenize_tenantCommand {tenant : String} (h : tenant ≠ "") (command : String) :
    tokenize (tenantCommand true tenant command)
        = ["sudo", "-u"] ++ tokenize tenant ++ tokenize command ∧
      (tokenize (tenantCommand true tenant command) = ["sudo", "-u", tenant] ++ tokenize command ↔
        IsWord tenant) := by
  have hprefixed : tenantCommand true tenant command = asTenant tenant command := by
    have hempty : tenant.isEmpty = false := by simpa using h
    rw [tenantCommand, hempty]
    rfl
  rw [hprefixed, tokenize_asTenant]
  refine ⟨rfl, ?_⟩
  rw [← tokenize_eq_singleton_iff]
  constructor
  · intro hsame
    have hcut : ["sudo", "-u"] ++ tokenize tenant = ["sudo", "-u"] ++ [tenant] :=
      List.append_cancel_right hsame
    exact List.append_cancel_left hcut
  · intro hone
    rw [hone]
    rfl

/-- **Argument boundaries.** Once a group is found, the commands that are handed over are the
templates with the group as one argument and the words of the name in the places of the name, as far
as the steps were run; a tenant's command has the words of the tenant. The name of an account or a
tenant is an argument of its own just if it is a word. -/
theorem provision_arguments (directory : Directory) (host : Host σ)
    (party : List String → Action σ String) (user : String) {task : Option TaskJournal}
    (htask : Accepting task) (s : Option String × World σ) :
    (∀ (report : Report) (known : Option String) (w : World σ),
      directory.provision (host.withParty party) user task s = (.ok report, (known, w)) →
      report.groupError = none →
      IsWord report.group ∧
        ∃ (current : String) (o : σ) (argvs : List (List String)),
          identify host s.1 s.2.outside = (.ok current, o) ∧
          w.calls = s.2.calls ++ directory.platform.groupArgv current :: argvs ∧
          argvs = (directory.platform.creationArguments (tokenize user) [report.group]).take
            report.outcomes.length ∧
          0 < report.outcomes.length ∧
          ∀ (place : Nat) (argv : List String), argvs[place]? = some argv →
            ((directory.platform.creationArguments [user] [report.group])[place]? = some argv ↔
              IsWord user)) ∧
      ∀ tenant command : String, tenant ≠ "" →
        tokenize (tenantCommand true tenant command)
            = ["sudo", "-u"] ++ tokenize tenant ++ tokenize command ∧
          (tokenize (tenantCommand true tenant command) = ["sudo", "-u", tenant]
            ++ tokenize command ↔
            IsWord tenant) := by
  constructor
  · intro report known w hgiven hgroup
    obtain ⟨attempt, known', journal, ending, hrun, huser, hplatform, -, hname, hends⟩ :=
      provision_apply directory host party user htask s
    have hsame := hgiven.symm.trans hrun
    simp only [Prod.mk.injEq, Except.ok.injEq] at hsame
    obtain ⟨rfl, rfl, rfl⟩ := hsame
    obtain ⟨argvs, middle, hplanned, hpos, hargvs⟩ := hends.exists_planned hgroup
    have hcreation : argvs = (directory.platform.creationArguments (tokenize user)
        [attempt.report.group]).take attempt.report.outcomes.length := by
      rw [hargvs, hplanned.map_argv, huser, hplatform]
    obtain ⟨argv, answer, ⟨current, hcurrent, rfl, -⟩, hcalls, -⟩ := hplanned.asked
    rw [hcurrent] at hname
    refine ⟨hplanned.isWord_group, current, attempt.before, argvs, hname, ?_,
      hcreation, hpos, ?_⟩
    · show s.2.calls ++ attempt.calls = _
      rw [hcalls, hplatform]
    · intro place argv hargv
      rw [hcreation, List.getElem?_take] at hargv
      by_cases hplace : place < attempt.report.outcomes.length
      · rw [if_pos hplace] at hargv
        exact Platform.creationArguments_eq_iff_isWord hargv
      · rw [if_neg hplace] at hargv
        exact absurd hargv.symm (Option.some_ne_none argv)
  · intro tenant command htenant
    exact tokenize_tenantCommand htenant command

/-- A name of two words: each command has both, and the name is none of the arguments. -/
theorem provision_arguments_two_words :
    Accepting (some ⟨.faults, fun _ => none⟩) ∧
      ∃ (report : Report) (known : Option String) (w : World Unit),
        provision ⟨.macos, false, ⟨.root, []⟩⟩ ((Host.ofUser "root").withParty addingParty)
          "alice bob"
            (some ⟨.faults, fun _ => none⟩) (none, .start ()) = (.ok report, (known, w)) ∧
          report.groupError = none ∧ IsWord report.group ∧ ¬ IsWord "alice bob" ∧
          w.calls = [["groups"],
            ["sudo", "sysadminctl", "-addUser", "alice", "bob", "-password", "alice", "bob"],
            ["sudo", "dseditgroup", "-o", "edit", "-a", "alice", "bob", "-t", "user",
              "staff"]] := by
  have htask := accepting_unrefusing .faults
  have hbounds := provision_arguments ⟨.macos, false, ⟨.root, []⟩⟩ (Host.ofUser "root")
    addingParty "alice bob" htask (none, .start ())
  refine ⟨htask, _, _, _, rfl, rfl, (hbounds.1 _ _ _ rfl rfl).1, by decide, ?_⟩
  rfl

end Directory

end TenantHost
