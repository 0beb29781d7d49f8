import TenantHost.Account.Directory
import TenantHost.Proofs.Command.Runner
import TenantHost.Proofs.Journal.Task
/-!
# Steps up to the first failure

Running steps asks a party for one command after the other. Either it answers every one with an
output, or the first fault among its answers is the last thing that is asked for. The outcomes say
just that: one for each command that was handed over, in order.
-/

namespace TenantHost

variable {σ : Type}

/-! ## Asking a party -/

/-- The answers of a party that is asked some commands one after the other, and what it leaves. -/
def Executor.answers (party : List String → Action σ String) :
    List (List String) → σ → List (Except Fault String) × σ
  | [], o => ([], o)
  | argv :: rest, o =>
    ((party argv o).1 :: (answers party rest (party argv o).2).1,
      (answers party rest (party argv o).2).2)

@[simp] theorem Executor.answers_nil (party : List String → Action σ String) (o : σ) :
    answers party [] o = ([], o) :=
  rfl

@[simp] theorem Executor.answers_cons (party : List String → Action σ String)
    (argv : List String) (rest : List (List String)) (o : σ) :
    answers party (argv :: rest) o
      = ((party argv o).1 :: (answers party rest (party argv o).2).1,
          (answers party rest (party argv o).2).2) :=
  rfl

/-- A command that is left to a party is recorded, and no more is done to the world. -/
@[simp] theorem Executor.ofParty_apply (party : List String → Action σ String)
    (argv : List String) (w : World σ) :
    ofParty party argv w
      = ((party argv w.outside).1,
          ⟨(party argv w.outside).2, w.journal, w.calls ++ [argv]⟩) :=
  rfl

/-- Running a command line that is left to a party. -/
theorem Executor.runLine_ofParty (party : List String → Action σ String) {line : String}
    {argv : List String} (hline : Command.tokenize line = argv) (hargv : argv ≠ [])
    (w : World σ) :
    (ofParty party).runLine line w
      = ((party argv w.outside).1.mapError (surfaced argv),
          ⟨(party argv w.outside).2, w.journal ++ reported argv (party argv w.outside).1,
            w.calls ++ [argv]⟩) := by
  simp [runLine, hline, run_apply _ hargv]

/-- Where the journal does not matter: what a command line gave or how it failed. -/
theorem Executor.exists_runLine_ofParty (party : List String → Action σ String) {line : String}
    {argv : List String} (hline : Command.tokenize line = argv) (hargv : argv ≠ [])
    (w : World σ) :
    ∃ journal, (ofParty party).runLine line w
      = ((party argv w.outside).1.mapError (surfaced argv),
          ⟨(party argv w.outside).2, journal, w.calls ++ [argv]⟩) :=
  ⟨_, runLine_ofParty party hline hargv w⟩

/-! ## Steps and their outcomes -/

/-- The command of a step as it is handed over. -/
def Step.argv (step : Step) : List String :=
  Command.tokenize step.command

/-- The outcome of a step whose command gave an output. -/
def StepOutcome.done (step : Step) (output : String) : StepOutcome :=
  ⟨step, true, output, none⟩

/-- The outcome of a step whose command failed. -/
def StepOutcome.failed (step : Step) (fault : Fault) : StepOutcome :=
  ⟨step, false, "", some (Executor.surfaced step.argv fault).summary⟩

/-- Every step was done: the party was asked for each of them and gave an output each time. -/
def AllDone (party : List String → Action σ String) (steps : List Step) (before after : σ)
    (outcomes : List StepOutcome) (argvs : List (List String)) : Prop :=
  ∃ outputs : List String,
    outputs.length = steps.length ∧ outcomes = List.zipWith StepOutcome.done steps outputs ∧
      argvs = steps.map Step.argv ∧
      Executor.answers party argvs before = (outputs.map Except.ok, after)

/-- The step at a place failed: the party was asked for the steps up to it, gave an output for each
of those before it, and a fault for the one at the place. -/
def StoppedAt (place : Nat) (party : List String → Action σ String) (steps : List Step)
    (before after : σ) (outcomes : List StepOutcome) (argvs : List (List String)) : Prop :=
  ∃ (step : Step) (outputs : List String) (fault : Fault),
    steps[place]? = some step ∧ outputs.length = place ∧
      outcomes = List.zipWith StepOutcome.done (steps.take place) outputs
        ++ [StepOutcome.failed step fault] ∧
      argvs = (steps.take (place + 1)).map Step.argv ∧
      Executor.answers party argvs before = (outputs.map Except.ok ++ [Except.error fault], after)

theorem AllDone.nil (party : List String → Action σ String) (o : σ) :
    AllDone party [] o o [] [] :=
  ⟨[], rfl, rfl, rfl, rfl⟩

theorem AllDone.cons {party : List String → Action σ String} {step : Step} {steps : List Step}
    {before middle after : σ} {output : String} {outcomes : List StepOutcome}
    {argvs : List (List String)} (h : party step.argv before = (.ok output, middle))
    (hrest : AllDone party steps middle after outcomes argvs) :
    AllDone party (step :: steps) before after (.done step output :: outcomes)
      (step.argv :: argvs) := by
  obtain ⟨outputs, hlen, rfl, rfl, hanswers⟩ := hrest
  exact ⟨output :: outputs, by simp [hlen], rfl, rfl, by simp [h, hanswers]⟩

theorem StoppedAt.head {party : List String → Action σ String} {step : Step} (steps : List Step)
    {before after : σ} {fault : Fault} (h : party step.argv before = (.error fault, after)) :
    StoppedAt 0 party (step :: steps) before after [.failed step fault] [step.argv] := by
  exact ⟨step, [], fault, rfl, rfl, rfl, rfl, by simp [h]⟩

theorem StoppedAt.cons {place : Nat} {party : List String → Action σ String} {step : Step}
    {steps : List Step} {before middle after : σ} {output : String} {outcomes : List StepOutcome}
    {argvs : List (List String)} (h : party step.argv before = (.ok output, middle))
    (hrest : StoppedAt place party steps middle after outcomes argvs) :
    StoppedAt (place + 1) party (step :: steps) before after (.done step output :: outcomes)
      (step.argv :: argvs) := by
  obtain ⟨last, outputs, fault, hlast, hlen, rfl, rfl, hanswers⟩ := hrest
  refine ⟨last, output :: outputs, fault, hlast, by simp [hlen], rfl, rfl, ?_⟩
  rw [Executor.answers_cons, h, hanswers]
  rfl

/-! ## A single command -/

/-- A single command whose step was done gave an output. -/
theorem AllDone.exists_output {party : List String → Action σ String} {steps : List Step}
    {before after : σ} {outcomes : List StepOutcome} {argvs : List (List String)}
    (h : AllDone party steps before after outcomes argvs) {argv : List String}
    (hone : steps.map Step.argv = [argv]) :
    ∃ output, party argv before = (.ok output, after) := by
  obtain ⟨outputs, -, -, rfl, hanswers⟩ := h
  rw [hone, Executor.answers_cons, Executor.answers_nil] at hanswers
  obtain ⟨houtputs, hafter⟩ := Prod.mk.inj hanswers
  cases outputs with
  | nil => exact absurd houtputs (List.cons_ne_nil _ _)
  | cons output outputs =>
    rw [List.map_cons] at houtputs
    exact ⟨output, Prod.ext (List.cons.inj houtputs).1 hafter⟩

/-- A single command whose step failed gave a fault. -/
theorem StoppedAt.exists_fault {place : Nat} {party : List String → Action σ String}
    {steps : List Step} {before after : σ} {outcomes : List StepOutcome}
    {argvs : List (List String)}
    (h : StoppedAt place party steps before after outcomes argvs) {argv : List String}
    (hone : steps.map Step.argv = [argv]) :
    ∃ fault, party argv before = (.error fault, after) := by
  obtain ⟨step, outputs, fault, hstep, hlen, -, rfl, hanswers⟩ := h
  have hplace : place < steps.length := (List.getElem?_eq_some_iff.mp hstep).1
  have hsteps : steps.length = 1 := by
    rw [← List.length_map (f := Step.argv), hone, List.length_singleton]
  have hnone : outputs = [] := List.eq_nil_of_length_eq_zero (by omega)
  have htake : steps.take (place + 1) = steps := List.take_of_length_le (by omega)
  rw [htake, hone, Executor.answers_cons, Executor.answers_nil, hnone] at hanswers
  obtain ⟨hfault, hafter⟩ := Prod.mk.inj hanswers
  exact ⟨fault, Prod.ext (List.cons.inj hfault).1 hafter⟩

/-! ## Running steps -/

/-- **Steps run up to the first failure.** -/
theorem Directory.runSteps_apply (party : List String → Action σ String)
    {task : Option TaskJournal} (htask : Accepting task) (user : String) {steps : List Step}
    (hsteps : ∀ step ∈ steps, step.argv ≠ []) (w : World σ) :
    ∃ outcomes after journal argvs,
      runSteps (.ofParty party) task user steps w
          = (.ok outcomes, ⟨after, journal, w.calls ++ argvs⟩) ∧
        (AllDone party steps w.outside after outcomes argvs ∨
          ∃ place, StoppedAt place party steps w.outside after outcomes argvs) := by
  -- the world is general: what a step leaves is where the rest starts
  induction steps generalizing w with
  | nil =>
    exact ⟨[], w.outside, w.journal, [], by simp [runSteps], .inl (AllDone.nil party w.outside)⟩
  | cons step steps ih =>
    have hstep := hsteps step List.mem_cons_self
    have hrest := fun s hs => hsteps s (List.mem_cons_of_mem step hs)
    obtain ⟨noted, hinfo⟩ := (log task).exists_write_apply htask .info
      (step.description ++ " : " ++ step.command) none w
    obtain ⟨ran, hrun⟩ := Executor.exists_runLine_ofParty party (rfl : _ = step.argv) hstep
      { w with journal := noted }
    rcases hanswer : party step.argv w.outside with ⟨fault | output, middle⟩
    · -- the first failure: nothing is asked for behind it
      rw [hanswer] at hrun
      obtain ⟨ended, herror⟩ := (log task).exists_write_apply htask .error
        ("Step '" ++ step.description ++ "' failed for user " ++ user ++ ": "
          ++ (Executor.surfaced step.argv fault).message)
        (some (Executor.surfaced step.argv fault)) ⟨middle, ran, w.calls ++ [step.argv]⟩
      refine ⟨[.failed step fault], middle, ended, [step.argv], ?_,
        .inr ⟨0, StoppedAt.head steps hanswer⟩⟩
      simp [runSteps, TaskLog.info, TaskLog.error, StepOutcome.failed, hinfo, hrun, herror]
    · -- the step is done: go on behind it
      rw [hanswer] at hrun
      obtain ⟨outcomes, after, journal, argvs, hgo, hends⟩ :=
        ih hrest ⟨middle, ran, w.calls ++ [step.argv]⟩
      rw [List.append_assoc, List.singleton_append] at hgo
      refine ⟨.done step output :: outcomes, after, journal, step.argv :: argvs, ?_, ?_⟩
      · simp [runSteps, TaskLog.info, StepOutcome.done, hinfo, hrun, hgo]
      · rcases hends with hall | ⟨place, hstop⟩
        · exact .inl (AllDone.cons hanswer hall)
        · exact .inr ⟨place + 1, StoppedAt.cons hanswer hstop⟩

end TenantHost
