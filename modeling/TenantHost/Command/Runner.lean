import TenantHost.Command.Line
import TenantHost.Journal.Handling
/-!
# Running commands

A runner hands a command to an executor and passes on what that gives, text or command fault,
unchanged. A command without arguments is refused beforehand, and whatever else goes wrong in the
executor becomes a command fault with the first fault behind it. So a runner fails with command
faults only.
-/

namespace TenantHost

/-- Something that runs a command to its end and gives its output. -/
abbrev Executor (σ : Type) : Type :=
  List String → Action (World σ) String

namespace Executor

variable {σ : Type}

/-- The executor that leaves commands to the outside and records each one. -/
def ofParty (party : List String → Action σ String) : Executor σ :=
  fun argv => do
    World.recordCall argv
    World.ask (party argv)

/-- Runs a command. -/
def run (execute : Executor σ) (argv : List String) : Action (World σ) String := do
  if argv = [] then Action.fail (.command ⟨[], .empty⟩)
  else
    match ← (execute argv).attempt with
    | .ok output => pure output
    | .error (.command fault) => Action.fail (.command fault)
    | .error fault => do
      let context := Fault.commandContext (Command.line argv)
      fault.report context (some .error) .commands none
      Action.fail (.command ⟨argv, .unexpected fault.toCause⟩)

/-- Runs a command line. -/
def runLine (execute : Executor σ) (line : String) : Action (World σ) String :=
  execute.run (Command.tokenize line)

end Executor

end TenantHost
