import TenantHost.Command.Runner
/-!
# The executor of a process

Whoever brings no executor runs commands through that of the process. The process takes one at its
first use and keeps it, so command lines and lists of arguments all go through the same one from
then on.
-/

namespace TenantHost

/-- An action of a process. Its own state is the executor that it keeps, once it has one. -/
abbrev SharedAction (σ α : Type) : Type :=
  Action (Option (Executor σ) × World σ) α

namespace Executor

variable {σ : Type}

/-- The executor of the process: the one that it keeps, or else the usual one, which it keeps from
now on. -/
def shared (usual : Executor σ) : SharedAction σ (Executor σ) := do
  match (← Action.state).1 with
  | some execute => pure execute
  | none => do
    Action.update fun s => (some usual, s.2)
    return usual

/-- Runs a command through the executor of the process. -/
def runShared (usual : Executor σ) (argv : List String) : SharedAction σ String := do
  let execute ← shared usual
  (execute.run argv).onSecond

/-- Runs a command line through the executor of the process. -/
def runLineShared (usual : Executor σ) (line : String) : SharedAction σ String := do
  let execute ← shared usual
  (execute.runLine line).onSecond

end Executor

end TenantHost
