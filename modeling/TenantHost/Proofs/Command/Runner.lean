import TenantHost.Command.Runner
/-!
# What a runner makes of an executor

A runner adds nothing to what an executor does but a line about a fault that is no command fault,
and it turns that fault into one. Everything that follows about commands rests on this one equation.
-/

namespace TenantHost

/-- A command fault. -/
def Fault.IsCommand (fault : Fault) : Prop :=
  ∃ command : CommandFault, fault = .command command

namespace Executor

variable {σ α : Type}

/-- The fault of a runner whose executor failed: a command fault stays as it is. -/
def surfaced (argv : List String) : Fault → Fault
  | .command fault => .command fault
  | fault => .command ⟨argv, .unexpected fault.toCause⟩

/-- The lines that a runner writes about the outcome of its executor. -/
def reported (argv : List String) : Except Fault α → List Line
  | .ok _ => []
  | .error (.command _) => []
  | .error fault =>
    [fault.line (Fault.commandContext (Command.line argv)) .error .commands none]

theorem channel_of_mem_reported {argv : List String} {outcome : Except Fault α} {line : Line}
    (h : line ∈ reported argv outcome) : line.channel = .commands := by
  cases outcome with
  | ok output => exact absurd h List.not_mem_nil
  | error fault =>
    cases fault with
    | command fault => exact absurd h List.not_mem_nil
    | _ =>
      rw [List.mem_singleton.mp h]
      rfl

/-- An output is passed on without a line. -/
@[simp] theorem reported_ok (argv : List String) (a : α) :
    reported argv (.ok a : Except Fault α) = [] :=
  rfl

/-- So is a command fault. -/
@[simp] theorem reported_command (argv : List String) (fault : CommandFault) :
    reported argv (.error (.command fault) : Except Fault α) = [] :=
  rfl

/-- **The equation of a runner.** -/
theorem run_apply (execute : Executor σ) {argv : List String} (h : argv ≠ []) (w : World σ) :
    execute.run argv w
      = ((execute argv w).1.mapError (surfaced argv),
          { (execute argv w).2 with
            journal := (execute argv w).2.journal ++ reported argv (execute argv w).1 }) := by
  rcases hout : execute argv w with ⟨outcome, after⟩
  cases outcome with
  | ok output => simp [run, h, hout]
  | error fault =>
    cases fault with
    | command fault => simp [run, h, hout, surfaced]
    | _ => simp [run, h, hout, surfaced, reported]

/-- An output is passed on as it is. -/
theorem run_of_ok {execute : Executor σ} {argv : List String} (h : argv ≠ []) {w w' : World σ}
    {output : String} (hok : execute argv w = (.ok output, w')) :
    execute.run argv w = (.ok output, w') := by
  simp [run_apply execute h, hok]

/-- So is the output of a command line, which is that of its arguments. -/
theorem runLine_of_ok {execute : Executor σ} {argv : List String} (h : argv ≠ [])
    {w w' : World σ} {output : String} (hok : execute argv w = (.ok output, w')) {line : String}
    (hline : Command.tokenize line = argv) : execute.runLine line w = (.ok output, w') := by
  rw [runLine, hline]
  exact run_of_ok h hok

end Executor

end TenantHost
