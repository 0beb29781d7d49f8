import TenantHost.Journal.Basic
/-!
# Handling a fault

A fault is handled by a line that says where it arose; then it goes on, or it is dropped. The line
is about the fault when it is at least an error. A debug line is about the fault that is being
handled around it, if there is one; the lines between are about none.
-/

namespace TenantHost.Fault

variable {σ : Type}

/-- The line about a fault that arose in a context. -/
def line (fault : Fault) (context : String) (level : Level) (channel : Channel)
    (around : Option Fault) :
    Line :=
  let about :=
    match level with
    | .debug => around
    | .info | .warning => none
    | .error | .critical => some fault
  ⟨channel, level, "Error in " ++ context ++ ": " ++ fault.message, about⟩

/-- Handles a fault and drops it. Without a level no line is written. -/
def report (fault : Fault) (context : String) (level : Option Level) (channel : Channel)
    (around : Option Fault) : Action (World σ) Unit :=
  match level with
  | none => pure ()
  | some level => World.write (fault.line context level channel around)

/-- Handles a fault and fails with it. -/
def escalate {α : Type} (fault : Fault) (context : String) (level : Option Level)
    (channel : Channel) (around : Option Fault) : Action (World σ) α := do
  fault.report context level channel around
  Action.fail fault

@[simp] theorem report_none (fault : Fault) (context : String) (channel : Channel)
    (around : Option Fault) (w : World σ) :
    fault.report context none channel around w = (.ok (), w) :=
  rfl

@[simp] theorem report_some (fault : Fault) (context : String) (level : Level) (channel : Channel)
    (around : Option Fault) (w : World σ) :
    fault.report context (some level) channel around w
      = (.ok (), { w with journal := w.journal ++ [fault.line context level channel around] }) :=
  rfl

@[simp] theorem escalate_some {α : Type} (fault : Fault) (context : String) (level : Level)
    (channel : Channel) (around : Option Fault) (w : World σ) :
    (fault.escalate context (some level) channel around : Action (World σ) α) w
      = (.error fault,
        { w with journal := w.journal ++ [fault.line context level channel around] }) :=
  rfl

/-- The context of a fault that arose with settings. -/
def settingsContext (activity : String) : String :=
  "config " ++ activity

/-- The context of a fault that arose with a command. -/
def commandContext (line : String) : String :=
  "subprocess command '" ++ line ++ "'"

end TenantHost.Fault
