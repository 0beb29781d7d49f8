import TenantHost.Action
/-!
# The journal

Every noteworthy event is a line in the journal: the channel it went to, its level, its text, and
the fault it is about. The world that actions run in is the outside, which belongs to other parties,
with the journal and the list of commands that were handed to an executor.
-/

namespace TenantHost

/-- How grave a line is. -/
inductive Level where
  | debug
  | info
  | warning
  | error
  | critical
  deriving DecidableEq, Repr

/-- The name of a level. -/
def Level.name : Level → String
  | .debug => "DEBUG"
  | .info => "INFO"
  | .warning => "WARNING"
  | .error => "ERROR"
  | .critical => "CRITICAL"

/-- The level that a text names, in any case. -/
def Level.ofText? (text : String) : Option Level :=
  let name := text.toUpper
  [Level.debug, .info, .warning, .error, .critical].find? fun level => level.name == name

/-- Where lines go; two channels of one name are the same. -/
structure Channel where
  name : String
  deriving DecidableEq, Repr

namespace Channel

/-- Lines about the choice of an account strategy. -/
def accounts : Channel := ⟨"hostos.system.accounts"⟩

/-- Lines about commands. -/
def commands : Channel := ⟨"hostos.system.commands"⟩

/-- Lines about the detection of the platform. -/
def platform : Channel := ⟨"hostos.system.platform"⟩

/-- Lines about readings and admission. -/
def resources : Channel := ⟨"hostos.system.resources"⟩

/-- Lines about listing and creating accounts. -/
def users : Channel := ⟨"hostos.system.users"⟩

/-- Lines about reading a settings file. -/
def loader : Channel := ⟨"hostos.config.loader"⟩

/-- Lines about the settings of the process. -/
def manager : Channel := ⟨"hostos.config.manager"⟩

/-- Lines about checking settings. -/
def validators : Channel := ⟨"hostos.config.validators"⟩

/-- Lines about faults that name no channel of their own. -/
def faults : Channel := ⟨"hostos.validation.exceptions"⟩

end Channel

/-- A line of the journal. -/
structure Line where
  channel : Channel
  level : Level
  text : String
  about : Option Fault

/-- The outside with the journal and the commands that were handed to an executor, in order. -/
structure World (σ : Type) where
  outside : σ
  journal : List Line
  calls : List (List String)

namespace World

variable {σ α : Type}

/-- A world in which nothing has happened yet. -/
def start (outside : σ) : World σ :=
  ⟨outside, [], []⟩

/-- Adds a line to the journal. -/
def write (line : Line) : Action (World σ) Unit :=
  .update fun world => { world with journal := world.journal ++ [line] }

/-- Adds a line that is about no fault. -/
def note (channel : Channel) (level : Level) (text : String) : Action (World σ) Unit :=
  write ⟨channel, level, text, none⟩

/-- Leaves something to the outside. -/
def ask (party : Action σ α) : Action (World σ) α :=
  .onPart World.outside (fun world outside => { world with outside }) party

@[simp] theorem ask_apply (party : Action σ α) (w : World σ) :
    ask party w = ((party w.outside).1, { w with outside := (party w.outside).2 }) :=
  rfl

@[simp] theorem write_apply (line : Line) (w : World σ) :
    write line w = (.ok (), { w with journal := w.journal ++ [line] }) :=
  rfl

@[simp] theorem note_apply (channel : Channel) (level : Level) (text : String) (w : World σ) :
    note channel level text w
      = (.ok (), { w with journal := w.journal ++ [⟨channel, level, text, none⟩] }) :=
  rfl

theorem ask_of {party : Action σ α} {w : World σ} {o : σ} {outcome : Except Fault α}
    (h : party w.outside = (outcome, o)) : ask party w = (outcome, { w with outside := o }) := by
  rw [ask, Action.onPart, h]

/-- Records that a command is handed to an executor. -/
def recordCall (argv : List String) : Action (World σ) Unit :=
  .update fun world => { world with calls := world.calls ++ [argv] }

@[simp] theorem recordCall_apply (argv : List String) (w : World σ) :
    recordCall argv w = (.ok (), { w with calls := w.calls ++ [argv] }) :=
  rfl

end World

end TenantHost
