import TenantHost.Journal.Basic
/-!
# Lines of a task

Work on behalf of a task writes each line twice: to the channel of the process, then to the task's
own journal. A task whose channel is the very same gets no second copy. A task's journal may refuse
a line, which is a fault of the work that wrote it.
-/

namespace TenantHost

/-- A task's own journal: its channel, and the levels it refuses with the fault of each. -/
structure TaskJournal where
  channel : Channel
  refusal : Level → Option Fault

/-- Where the lines of some work go: a channel of the process and, maybe, a task's journal. -/
structure TaskLog where
  channel : Channel
  task : Option TaskJournal

namespace TaskLog

variable {σ : Type}

/-- The task's copy of a line. -/
def copy (log : TaskLog) (level : Level) (text : String) (about : Option Fault) :
    Action (World σ) Unit :=
  match log.task with
  | none => pure ()
  | some task =>
    if task.channel = log.channel then pure ()
    else
      match task.refusal level with
      | some fault => .fail fault
      | none => World.write ⟨task.channel, level, text, about⟩

/-- Writes a line, and the task's copy of it. -/
def write (log : TaskLog) (level : Level) (text : String) (about : Option Fault) :
    Action (World σ) Unit := do
  World.write ⟨log.channel, level, text, about⟩
  log.copy level text about

/-- Writes what is going on. -/
def info (log : TaskLog) (text : String) : Action (World σ) Unit :=
  log.write .info text none

/-- Writes a warning. -/
def warning (log : TaskLog) (text : String) : Action (World σ) Unit :=
  log.write .warning text none

/-- Writes an error, with the fault it is about if there is one. -/
def error (log : TaskLog) (text : String) (about : Option Fault) : Action (World σ) Unit :=
  log.write .error text about

end TaskLog

end TenantHost
