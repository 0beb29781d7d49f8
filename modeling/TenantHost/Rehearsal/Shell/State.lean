import TenantHost.Rehearsal.Program.Basic
import TenantHost.Rehearsal.Shell.Source
/-!
# The state of a shell

What a shell knows while it carries out a script, and how it leaves off: a script may end, or give
up a loop or a function, from inside of any command.
-/

namespace TenantHost.Rehearsal

/-- A variable: its value, whether programs get to know it, and whether it is fixed. -/
structure Binding where
  value : Option Raw
  exported : Bool
  fixed : Bool

/-- Why a command is left before its end. -/
inductive Leave where
  | ended
  | failed
  | killed (signal : Nat)
  | broke (loops : Nat)
  | continued (loops : Nat)
  | returned
  deriving DecidableEq

/-- A shell. -/
structure Shell where
  system : System
  name : Raw
  parameters : List Raw
  bindings : List (Raw × Binding)
  functions : List (Raw × Shell.Command)
  aliases : List (Raw × Raw)
  traps : List (Nat × Raw)
  flags : List Char
  status : Nat
  substituted : Option Nat
  number : Nat
  background : Option Nat
  jobs : List (Nat × Nat)
  line : Nat
  builtin : Option Raw
  directory : Place
  shown : Raw
  descriptors : List (Nat × Nat)
  loops : Nat
  frames : List (List (Raw × Option Binding))
  mask : Nat
  bundle : List Char
  isCopy : Bool
  exitStatus : Option Nat
  tracing : Bool
  isLost : Bool

namespace Shell

/-- What is done by a shell. -/
abbrev Run (α : Type) : Type := ExceptT Leave (StateM Shell) α

/-- Leaves the command at hand. -/
def leave {α : Type} (reason : Leave) : Run α := throw reason

/-- Changes a shell. -/
def update (f : Shell → Shell) : Run Unit := modify f

/-- Something done on the system. -/
def onSystem {α : Type} (act : OnSystem α) : Run α := do
  let shell ← get
  let (result, system) := act.run shell.system
  set { shell with system }
  return result

/-- Ends with a status. -/
def exitWith {α : Type} (status : Nat) : Run α := do
  update fun shell => { shell with status }
  leave .ended

/-! ## Writing -/

/-- Writes to a descriptor. -/
def writeTo (descriptor : Nat) (text : Raw) : Run Unit := do
  match (← get).descriptors.lookup descriptor with
  | some stream => onSystem (System.write stream text)
  | none => return ()

/-- Writes an output. It is lost if there is nothing to write to. -/
def put (text : Raw) : Run Unit := do
  match (← get).descriptors.lookup 1 with
  | some stream => onSystem (System.write stream text)
  | none => update fun shell => { shell with isLost := shell.isLost || text != "" }

/-- The beginning of a message: the name of the shell, the line, and the builtin that is at work. -/
def heading (shell : Shell) : Raw :=
  shell.name ++ ": " ++ toString shell.line ++ ": " ++ (shell.builtin.map (· ++ ": ")).getD ""

/-- Writes a message. -/
def warn (text : Raw) : Run Unit := do
  writeTo 2 ((← get).heading ++ text ++ "\n")

/-- Writes a message and gives the status for it. -/
def warnWith (status : Nat) (text : Raw) : Run Nat := do
  warn text
  return status

/-- Fails with a message. -/
def refuse {α : Type} (text : Raw) : Run α := do
  warn text
  update fun shell => { shell with status := 2 }
  leave .failed

/-! ## Flags and variables -/

/-- Whether a flag is set. -/
def hasFlag (shell : Shell) (flag : Char) : Bool :=
  shell.flags.contains flag

/-- The value of a variable. -/
def value? (shell : Shell) (name : Raw) : Option Raw :=
  (shell.bindings.lookup name).bind Binding.value

/-- A list with what belongs to a key changed; a key that is not there is added at the end. -/
def alter {κ α : Type} [DecidableEq κ] (list : List (κ × α)) (key : κ)
    (change : Option α → α) : List (κ × α) :=
  match list with
  | [] => [(key, change none)]
  | known :: rest =>
    if known.1 = key then (key, change (some known.2)) :: rest else known :: alter rest key change

/-- A variable with a value. -/
def Binding.withValue (value : Raw) (exported : Bool) : Option Binding → Binding
  | some known => { known with value := some value, exported := known.exported || exported }
  | none => ⟨some value, exported, false⟩

/-- Sets a variable. -/
def assign (name value : Raw) : Run Unit := do
  let shell ← get
  if !isName name then refuse (name ++ ": bad variable name")
  else if (shell.bindings.lookup name).any Binding.fixed then refuse (name ++ ": is read only")
  else
    set { shell with
      bindings := alter shell.bindings name (Binding.withValue value (shell.hasFlag 'a')) }

/-- The variables that programs get to know. -/
def environment (shell : Shell) : List (Raw × Raw) :=
  shell.bindings.filterMap fun (name, binding) =>
    if binding.exported then binding.value.map fun value => (name, value) else none

/-- Puts variables back to what they were, and the flags, which go by the name of a dash. -/
def restore (saved : List (Raw × Option Binding)) : Run Unit :=
  update fun shell =>
    { shell with
      flags := (((saved.lookup "-").bind id).bind Binding.value).elim shell.flags String.toList
      bindings := (saved.filter (·.1 ≠ "-")).foldl (fun bindings (name, binding) =>
        match binding with
        | some binding => alter bindings name fun _ => binding
        | none => bindings.filter fun known => known.1 ≠ name) shell.bindings }

/-- The name of a file as what the shell looks it up by. -/
def locate (last : Bool) (path : Raw) : Run (Except FileProblem Place) := do
  let shell ← get
  return shell.system.files.locate last shell.directory path

/-- What stands behind a path. -/
def find (path : Raw) : Run (Except FileProblem Entry) := do
  let shell ← get
  return shell.system.files.find shell.directory path

/-! ## Leaving and coming back -/

/-- Carries something out, and cleans up behind it, also if it is left before its end. -/
def andThenCleanUp {α : Type} (act : Run α) (cleanUp : Run Unit) : Run α := do
  let result ← ExceptT.lift act.run
  cleanUp
  match result with
  | .ok value => return value
  | .error reason => leave reason

/-- Carries something out in a shell of its own, of which only the system stays, and gives how that
ended. Such a shell keeps only those traps that do nothing. -/
def inCopy (act : Run Nat) : Run Ending := do
  let before ← get
  set { before with isCopy := true, traps := before.traps.filter (·.2 == ""), exitStatus := none }
  let result ← ExceptT.lift act.run
  let after ← get
  set { before with system := after.system }
  match result with
  | .ok status => return .exited status
  | .error (.killed signal) => return .killed signal
  | .error _ => return .exited after.status

end Shell

end TenantHost.Rehearsal
