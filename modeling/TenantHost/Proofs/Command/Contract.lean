import TenantHost.Command.Shared
import TenantHost.Proofs.Command.Runner
/-!
# What a runner promises

A runner hands a command that has an argument to its executor, once and as it is, and passes on an
output or a command fault. Anything else that goes wrong in the executor becomes a command fault,
and one error is written about it. A command line is run as its arguments are, and the executor of a
process is run like any other: there is one contract for all four ways.
-/

namespace TenantHost.Executor

variable {σ : Type}

/-- The error about a fault of an executor that is no command fault. -/
def crashLine (argv : List String) (fault : Fault) : Line :=
  ⟨.commands, .error, "Error in subprocess command '" ++ Command.line argv ++ "': "
    ++ fault.message,
    some fault⟩

/-- How the run of a command ends in a world, by what the executor makes of that command there:
without an argument it is refused, an output and a command fault are passed on with the world that
the executor left, and any other fault is wrapped and written about. -/
inductive RunEnds (execute : Executor σ) (argv : List String) (w : World σ) :
    Except Fault String → World σ → Prop
  | refused (hempty : argv = []) : RunEnds execute argv w (.error (.command ⟨[], .empty⟩)) w
  | answered {text : String} {w' : World σ} (hargv : argv ≠ [])
      (hexecute : execute argv w = (.ok text, w')) : RunEnds execute argv w (.ok text) w'
  | failed {command : CommandFault} {w' : World σ} (hargv : argv ≠ [])
      (hexecute : execute argv w = (.error (.command command), w')) :
      RunEnds execute argv w (.error (.command command)) w'
  | crashed {fault : Fault} {command : CommandFault} {w' : World σ} (hargv : argv ≠ [])
      (hexecute : execute argv w = (.error fault, w')) (hother : ¬ fault.IsCommand)
      (hcommand : command.argv = argv) (hstatus : command.status? = none)
      (hcause : command.cause? = some fault.toCause) :
      RunEnds execute argv w (.error (.command command))
        { w' with journal := w'.journal ++ [crashLine argv fault] }

/-- A fault that is no command fault is wrapped with the command, without a status, and with the
fault behind it. -/
theorem exists_surfaced_of_not_isCommand (argv : List String) {fault : Fault}
    (h : ¬ fault.IsCommand) :
    ∃ command : CommandFault, surfaced argv fault = .command command ∧ command.argv = argv ∧
      command.status? = none ∧ command.cause? = some fault.toCause := by
  cases fault with
  | command command => exact absurd ⟨command, rfl⟩ h
  | _ => exact ⟨_, rfl, rfl, rfl, rfl⟩

/-- The error about a fault that arose with a command. -/
theorem line_commandContext (argv : List String) (fault : Fault) :
    fault.line (Fault.commandContext (Command.line argv)) .error .commands none
      = crashLine argv fault := by
  have hopening : "Error in subprocess command '" = "Error in " ++ "subprocess command '" :=
    by decide
  have hclosing : "': " = "'" ++ ": " := by decide
  have htext : "Error in " ++ ("subprocess command '" ++ Command.line argv ++ "'") ++ ": "
      ++ fault.message
      = "Error in subprocess command '" ++ Command.line argv ++ "': " ++ fault.message := by
    rw [hopening, hclosing]
    simp only [String.append_assoc]
  exact congrArg (fun text => (⟨.commands, .error, text, some fault⟩ : Line)) htext

theorem reported_of_not_isCommand {α : Type} (argv : List String) {fault : Fault}
    (h : ¬ fault.IsCommand) :
    reported argv (.error fault : Except Fault α) = [crashLine argv fault] := by
  rw [← line_commandContext]
  cases fault with
  | command command => exact absurd ⟨command, rfl⟩ h
  | _ => rfl

/-- **Every run ends by the contract.** -/
theorem run_ends (execute : Executor σ) (argv : List String) (w : World σ) :
    RunEnds execute argv w (execute.run argv w).1 (execute.run argv w).2 := by
  by_cases hargv : argv = []
  · rw [run, if_pos hargv]
    exact .refused hargv
  · rw [run_apply execute hargv]
    rcases hexecute : execute argv w with ⟨fault | text, w'⟩
    · by_cases hcommand : fault.IsCommand
      · obtain ⟨command, rfl⟩ := hcommand
        rw [reported, List.append_nil]
        exact .failed hargv hexecute
      · obtain ⟨command, hsurfaced, hnames, hstatus, hcause⟩ :=
          exists_surfaced_of_not_isCommand argv hcommand
        have houtcome : (.error fault : Except Fault String).mapError (surfaced argv)
            = .error (.command command) := congrArg Except.error hsurfaced
        rw [reported_of_not_isCommand argv hcommand, houtcome]
        exact .crashed hargv hexecute hcommand hnames hstatus hcause
    · rw [reported, List.append_nil]
      exact .answered hargv hexecute

theorem RunEnds.isCommand {execute : Executor σ} {argv : List String} {w w' : World σ}
    {fault : Fault} (h : RunEnds execute argv w (.error fault) w') : fault.IsCommand := by
  cases h with
  | refused => exact ⟨_, rfl⟩
  | failed => exact ⟨_, rfl⟩
  | crashed => exact ⟨_, rfl⟩

/-- A party gets the command that is run, unless that has no argument, and nothing else. -/
theorem RunEnds.calls {party : List String → Action σ String} {argv : List String}
    {w w' : World σ}
    {outcome : Except Fault String} (h : RunEnds (ofParty party) argv w outcome w') :
    w'.calls = w.calls ++ if argv = [] then [] else [argv] := by
  have hcalls : (ofParty party argv w).2.calls = w.calls ++ [argv] := rfl
  cases h with
  | refused hempty => rw [if_pos hempty, List.append_nil]
  | answered hargv hexecute => rw [if_neg hargv, ← hcalls, hexecute]
  | failed hargv hexecute => rw [if_neg hargv, ← hcalls, hexecute]
  | crashed hargv hexecute => rw [if_neg hargv, ← hcalls, hexecute]

/-! ## The executor of a process -/

/-- What is run through a process is run by the executor that it keeps, and that one stays. -/
theorem runShared_apply (usual : Executor σ) (argv : List String)
    (s : Option (Executor σ) × World σ) :
    usual.runShared argv s
      = (((s.1.getD usual).run argv s.2).1, some (s.1.getD usual),
        ((s.1.getD usual).run argv s.2).2) := by
  rcases s with ⟨kept | kept, w⟩
  · rfl
  · rfl

/-- **The contract of a runner.** Every run of a command or of a command line, on a runner of one's
own or on that of the process, ends as the one call of the executor makes it end; it fails with
command faults only; and a command line is run as its arguments are. -/
theorem run_contract (execute : Executor σ) :
    (∀ argv w, RunEnds execute argv w (execute.run argv w).1 (execute.run argv w).2) ∧
    (∀ line w, RunEnds execute (Command.tokenize line) w
      (execute.runLine line w).1 (execute.runLine line w).2) ∧
    (∀ argv w fault, (execute.run argv w).1 = .error fault → fault.IsCommand) ∧
    (∀ party argv (w : World σ),
      ((ofParty party).run argv w).2.calls = w.calls ++ if argv = [] then [] else [argv]) ∧
    (∀ argv (s : Option (Executor σ) × World σ), execute.runShared argv s
      = (((s.1.getD execute).run argv s.2).1, some (s.1.getD execute),
          ((s.1.getD execute).run argv s.2).2)) ∧
    (∀ line, execute.runLine line = execute.run (Command.tokenize line)) ∧
    (∀ line, execute.runLineShared line = execute.runShared (Command.tokenize line)) := by
  refine ⟨execute.run_ends, fun line => execute.run_ends (Command.tokenize line), ?_, ?_,
    execute.runShared_apply, fun line => rfl, fun line => rfl⟩
  · intro argv w fault hfault
    have hends := execute.run_ends argv w
    rw [hfault] at hends
    exact hends.isCommand
  · intro party argv w
    exact ((ofParty party).run_ends argv w).calls

/-- Arguments with blanks and empty ones go through as they are. -/
example : ((ofParty fun _ => (pure "ok" : Action Unit String)).run ["echo", "p  q", ""]
    (World.start ()))
    = (.ok "ok", ⟨(), [], [["echo", "p  q", ""]]⟩) := rfl

end TenantHost.Executor
