import TenantHost.Rehearsal.Shell.State
/-!
# Signals

A shell sends signals, to itself above all, and may lay down what it does when one of them, or its
end, comes.
-/

namespace TenantHost.Rehearsal.Shell

/-- The names of the signals in the order of their numbers; the end of a shell goes by the number
zero. -/
def signalNames : List Raw :=
  ["EXIT", "HUP", "INT", "QUIT", "ILL", "TRAP", "ABRT", "BUS", "FPE", "KILL", "USR1", "SEGV",
    "USR2", "PIPE", "ALRM",
    "TERM", "STKFLT", "CHLD", "CONT", "STOP", "TSTP", "TTIN", "TTOU", "URG", "XCPU", "XFSZ",
      "VTALRM", "PROF",
    "WINCH", "IO", "PWR", "SYS"]

/-- One more than the greatest number of a signal. -/
def signalLimit : Nat := 65

/-- What a signal is called in messages about those that it ended. -/
def signalWordings : List (Nat × Raw) :=
  [(1, "Hangup"), (3, "Quit"), (4, "Illegal instruction"), (5, "Trace/breakpoint trap"),
    (6, "Aborted"),
    (7, "Bus error"), (8, "Floating point exception"), (9, "Killed"), (10, "User defined signal 1"),
    (11, "Segmentation fault"), (12, "User defined signal 2"), (14, "Alarm clock"),
      (15, "Terminated"),
    (16, "Stack fault"), (24, "CPU time limit exceeded"), (25, "File size limit exceeded"),
    (26, "Virtual timer expired"), (27, "Profiling timer expired"), (29, "I/O possible"),
      (30, "Power failure"),
    (31, "Bad system call")]

/-- The signals that do not end a program which does nothing about them. -/
def harmlessSignals : List Nat := [0, 17, 18, 19, 20, 21, 22, 23, 28]

/-- The number of a signal, which is written as a number or by a name. -/
def signal? (text : Raw) : Option Nat :=
  if !text.isEmpty && text.toList.all Char.isDigit then text.toNat?.filter (· < signalLimit)
  else signalNames.findIdx? (· == text.toUpper)

/-- The number that an argument writes. -/
def numberOfArgument (text : Raw) : Run Nat := do
  if !text.isEmpty && text.toList.all Char.isDigit then return text.toNat?.getD 0
  else refuse ("Illegal number: " ++ text)

/-- How `kill` is to be called. -/
def killUsage : Raw :=
  "Usage: kill [-s sigspec | -signum | -sigspec] [pid | job]... or\nkill -l [exitstatus]"

/-- Lists the signals, or names one. -/
def listSignals (arguments : List Raw) : Run Nat := do
  match arguments with
  | [] =>
    put (Raw.ofLines ("0" :: signalNames.drop 1))
    return 0
  | argument :: _ =>
    let n ← numberOfArgument argument
    let signal := if n > 128 then n - 128 else n
    match (if signal = 0 then none else signalNames[signal]?) with
    | some name =>
      put (name ++ "\n")
      return 0
    | none => refuse ("invalid signal number or exit status: " ++ argument)

/-- Sends a signal to whoever has a number, and tells whether there is someone. -/
def sendTo (signal : Nat) (number : Nat) : Run Bool := do
  let shell ← get
  if shell.system.working.contains number then
    if signal ≠ 0 then onSystem (System.send number signal)
    return true
  else if (shell.jobs.lookup number).isSome then
    if !harmlessSignals.contains signal then
      set { shell with jobs := alter shell.jobs number fun _ => 128 + signal }
    return true
  else return false

/-- Sends a signal to all that are named. -/
def sendToAll (signal : Nat) (targets : List Raw) : Run Nat := do
  let mut status := 0
  for target in targets do
    let number ← numberOfArgument (if target.startsWith "-" then (target.drop 1).toString
      else target)
    if !(← sendTo signal number) then status := ← warnWith 1 "No such process\n"
  return status

/-- Sends signals, or lists them. -/
def kill : List Raw → Run Nat
  | [] => refuse killUsage
  | "-l" :: arguments => listSignals arguments
  | "-s" :: name :: targets => do
    match signal? name with
    | some signal => if targets.isEmpty then refuse killUsage else sendToAll signal targets
    | none => refuse ("invalid signal number or name: " ++ name)
  | "--" :: targets => sendToAll 15 targets
  | first :: targets => do
    if first.startsWith "-" then
      match signal? (first.drop 1).toString with
      | some signal => if targets.isEmpty then refuse killUsage else sendToAll signal targets
      | none => refuse ("Illegal option -" ++ (String.singleton ((first.toList[1]?).getD '-')))
    else sendToAll 15 (first :: targets)

/-! ## Traps -/

/-- A text in single quotes, with the stretches of single quotes in it in double ones; the first
number bounds its length. -/
def quotedFrom : Nat → List Char → List Char
  | 0, _ => []
  | size + 1, text =>
    let plain := text.takeWhile (· != '\'')
    let behind := text.drop plain.length
    let quotes := behind.takeWhile (· == '\'')
    let rest := behind.drop quotes.length
    '\'' :: plain ++ ['\''] ++ (if quotes.isEmpty then [] else '"' :: quotes ++ ['"']) ++
      (if rest.isEmpty then [] else quotedFrom size rest)

/-- A text in quotes, as a script writes it. -/
def quotedValue (text : Raw) : Raw :=
  String.ofList (quotedFrom (text.length + 1) text.toList)

/-- Lists the traps. -/
def listTraps : Run Nat := do
  for (signal, action) in (← get).traps.mergeSort (fun a b => a.1 ≤ b.1) do
    put ("trap -- " ++ quotedValue action ++ " " ++ (signalNames[signal]?).getD
      (toString signal) ++ "\n")
  return 0

/-- Lays down an action for signals, or what is usual if there is none. -/
def setTraps (action : Option Raw) : List Raw → Run Nat
  | [] => return 0
  | name :: rest => do
    match signal? name with
    | none =>
      writeTo 2 ("trap: " ++ name ++ ": bad trap\n")
      return 1
    | some signal =>
      update fun shell =>
        { shell with
          traps := shell.traps.filter (·.1 ≠ signal) ++ (action.map fun action =>
            (signal, action)).toList }
      setTraps action rest

/-- Lists traps or lays them down. -/
def trap (arguments : List Raw) : Run Nat := do
  let arguments := if arguments.head? = some "--" then arguments.drop 1 else arguments
  match arguments with
  | [] => listTraps
  | [name] => setTraps none [name]
  | action :: names =>
    if !action.isEmpty && action.toList.all Char.isDigit then setTraps none arguments
    else setTraps (if action = "-" then none else some action) names

end TenantHost.Rehearsal.Shell
