import TenantHost.Rehearsal.Shell.Redirection
import TenantHost.Rehearsal.Shell.Script
import TenantHost.Rehearsal.Shell.Surroundings
/-!
# Carrying out scripts

What goes on around the commands of a script: scripts are read and carried out command by command,
signals are answered between commands, and what is carried out apart leaves only the system changed.
The commands themselves are left to `run`.
-/

namespace TenantHost.Rehearsal.Shell

/-- How a command stands: whether its status is asked for, and whether nothing is done behind it. -/
structure Mode where
  tested : Bool
  last : Bool

variable (run : Mode → Command → Run Nat)

/-! ## Scripts -/

/-- Carries out a script from where its reading stands; the first number bounds its commands. -/
def scriptFrom (tested : Bool) : Nat → Source → Nat → Run Nat
  | 0, _, status => return status
  | size + 1, source, status => do
    match nextCommand.run { source with aliases := (← get).aliases } with
    | .error trouble =>
      update fun shell => { shell with line := trouble.line }
      refuse ("Syntax error: " ++ trouble.problem.wording)
    | .ok (none, _) => return status
    | .ok (some command, source) =>
      let status ← run ⟨tested, false⟩ command
      scriptFrom tested size source status

/-- Carries out a script. -/
def runScript (tested : Bool) (script : Raw) : Run Nat :=
  scriptFrom run tested (script.length + 2) (Source.ofScript script []) 0

/-! ## Signals -/

/-- Carries out the action of a trap; the status is what it was behind it, unless the shell ends
there. -/
def runAction (action : Raw) : Run Unit := do
  let before ← get
  set { before with exitStatus := some (before.exitStatus.getD before.status), builtin := none }
  let _ ← runScript run false action
  update fun shell =>
    { shell with status := before.status, exitStatus := before.exitStatus, builtin :=
      before.builtin }

/-- Answers the signals that came. -/
def answerSignals : Run Unit := do
  let shell ← get
  if !shell.isCopy && !shell.system.signals.isEmpty then
    for signal in ← onSystem (System.takeSignals shell.number) do
      let traps := (← get).traps
      match (if signal = 9 then none else traps.lookup signal) with
      | some "" => pure ()
      | some action => runAction run action
      | none => if !harmlessSignals.contains signal then leave (.killed signal)

/-- Ends a command with a status. A strict shell ends with it if it is `checked` and not zero. -/
def settle (mode : Mode) (checked : Bool) (status : Nat) : Run Nat := do
  update fun shell => { shell with status }
  answerSignals run
  if checked && !mode.tested && status != 0 && (← get).hasFlag 'e' then leave .ended
  else if mode.last then leave .ended
  else return status

/-- Carries out what a shell is for, and then what is laid down for its end. -/
def toTheEnd (act : Run Nat) : Run Nat := do
  match ← ExceptT.lift act.run with
  | .ok status => update fun shell => { shell with status }
  | .error (.killed signal) => leave (.killed signal)
  | .error _ => pure ()
  let shell ← get
  match shell.traps.lookup 0 with
  | none => return shell.status
  | some action =>
    set { shell with
      traps := shell.traps.filter (·.1 ≠ 0), exitStatus := some shell.status, builtin := none }
    match ← ExceptT.lift (runScript run false action).run with
    | .error (.killed signal) => leave (.killed signal)
    | .error .ended => return (← get).status
    | _ =>
      update fun after => { after with status := shell.status }
      return shell.status

/-! ## Apart from the shell -/

/-- Says that a command was ended by a signal, unless that is nothing special, and gives its
status. -/
def report (ending : Ending) : Run Nat := do
  if let .killed signal := ending then
    if let some wording := signalWordings.lookup signal then writeTo 2 (wording ++ "\n")
  return ending.status

/-- Ends a shell in the way that the last thing done by it ended. -/
def endAs (ending : Ending) : Run Nat := do
  match ending with
  | .killed signal => leave (.killed signal)
  | .exited status => exitWith status

/-- Carries out a command in a shell of its own with certain descriptors. -/
def runApart (tested : Bool) (descriptors : List (Nat × Nat)) (command : Command) : Run Ending :=
  inCopy (toTheEnd run (do
    for (descriptor, stream) in descriptors do setDescriptor descriptor stream
    run ⟨tested, true⟩ command))

/-- What a script inside of a word writes, without the line ends behind it. -/
def substitute (script : Command) : Run Raw := do
  let stream ← onSystem (System.openStream (.pipe ""))
  let ending ← runApart run false [(1, stream)] script
  let status ← report ending
  update fun shell => { shell with substituted := some status }
  let written ← onSystem (System.takeAll stream)
  return String.ofList (((written.toList.filter (· != '\x00')).reverse.dropWhile
    (· == '\n')).reverse)

/-- Carries out commands each of which reads what the one before it wrote; the last one ends the
whole. -/
def runPiped (tested : Bool) (input : Option Nat) : List Command → Run Ending
  | [] => return .exited 0
  | [command] => runApart run tested (input.map fun stream => (0, stream)).toList command
  | command :: rest => do
    let stream ← onSystem (System.openStream (.pipe ""))
    let ending ← runApart run tested
        ((input.map fun stream => (0, stream)).toList ++ [(1, stream)]) command
    let _ ← report ending
    runPiped tested (some stream) rest

/-- Carries out a command in the background: its status is kept under a number. -/
def runBehind (command : Command) : Run Nat := do
  let number ← onSystem System.takeNumber
  let input ← onSystem (System.openStream (.device .null))
  let ending ← runApart run false [(0, input)] command
  update fun shell =>
    { shell with background := some number, jobs := shell.jobs ++ [(number, ending.status)] }
  return 0

/-! ## Loops -/

/-- How a turn of a loop went: to its end, it was cut short, or it was the last one. -/
inductive Turn where
  | done (status : Nat)
  | skipped
  | stopped

/-- Carries out a part of a loop. What leaves an outer loop leaves this one, too. -/
def turn (act : Run Nat) : Run Turn := do
  match ← ExceptT.lift act.run with
  | .ok status => return .done status
  | .error (.broke loops) => if loops ≤ 1 then return .stopped else leave (.broke (loops - 1))
  | .error (.continued loops) =>
    if loops ≤ 1 then return .skipped else leave (.continued (loops - 1))
  | .error reason => leave reason

/-- Carries out turns of a loop while its test goes on; the first number bounds them. -/
def loopFrom (mode : Mode) (untilSucceeded : Bool) (test body : Command) : Nat → Nat → Run Nat
  | 0, status => return status
  | turns + 1, status => do
    match ← turn (run ⟨true, false⟩ test) with
    | .stopped => return 0
    | .skipped => loopFrom mode untilSucceeded test body turns status
    | .done tested =>
      if (tested == 0) == untilSucceeded then return status
      else
        match ← turn (run ⟨mode.tested, false⟩ body) with
        | .stopped => return 0
        | .skipped => loopFrom mode untilSucceeded test body turns 0
        | .done status => loopFrom mode untilSucceeded test body turns status

/-- Carries out a turn of a loop for each of some words. -/
def eachFrom (mode : Mode) (name : Raw) (body : Command) : List Raw → Nat → Run Nat
  | [], status => return status
  | word :: rest, _ => do
    assign name word
    match ← turn (run ⟨mode.tested, false⟩ body) with
    | .stopped => return 0
    | .skipped => eachFrom mode name body rest 0
    | .done status => eachFrom mode name body rest status

/-- Carries out a loop. -/
def inLoop (act : Run Nat) : Run Nat := do
  update fun shell => { shell with loops := shell.loops + 1 }
  andThenCleanUp act (update fun shell => { shell with loops := shell.loops - 1 })

/-- Leaves so many loops, or goes on with their next turn. -/
def leaveLoops (reason : Nat → Leave) (arguments : List Raw) : Run Nat := do
  let count ←
    match arguments with
    | [] => pure 1
    | argument :: _ =>
      match ← numberOfArgument argument with
      | 0 => refuse ("Illegal number: " ++ argument)
      | count => pure count
  let loops := (← get).loops
  if loops = 0 then return 0
  else
    update fun shell => { shell with status := 0 }
    leave (reason (min count loops))

/-! ## Patterns -/

/-- Whether one of some patterns matches a text. -/
def anyCovers (text : Raw) : List Word → Run Bool
  | [] => return false
  | word :: rest => do
    if (← patternOf (substitute run) word).covers text.toList then return true
    else anyCovers text rest

/-- Carries out the first clause with a pattern that matches a text. -/
def runClauses (mode : Mode) (text : Raw) : List (List Word × Command) → Run Nat
  | [] => return 0
  | (patterns, body) :: rest => do
    if ← anyCovers run text patterns then
      match body with
      | .nothing => return 0
      | body => run mode body
    else runClauses mode text rest

end TenantHost.Rehearsal.Shell
