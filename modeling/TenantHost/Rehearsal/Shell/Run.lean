import TenantHost.Rehearsal.Program.Table
import TenantHost.Rehearsal.Shell.Carrying
/-!
# Carrying out commands

Each kind of command is carried out in terms of how the commands inside of it are; tying the knot is
left to a number that bounds how deep they stand in each other. The shell is itself one of the
programs that a script launches.
-/

namespace TenantHost.Rehearsal.Shell

variable (run : Mode → Command → Run Nat) (perform : Raw → Call → OnSystem Ending)

/-! ## Programs -/

/-- The status of a program that cannot be launched. -/
def refusalStatus (problem : FileProblem) : Nat :=
  if [.missing, .notDirectory, .tooLongName, .tooManyLinks].contains problem then 127 else 126

/-- Why a program cannot be launched. -/
def refusalWording (problem : FileProblem) : Raw :=
  if Launching.isAbsence problem then "not found" else problem.wording

/-- What a command launches. A file that is no program is taken for a script of the shell. -/
def targetOf (shell : Shell) (name : Raw) (arguments : List Raw) :
    Except FileProblem Launching.Target :=
  match Launching.search shell.system.files shell.directory shell.programPath name arguments with
  | .error .badFormat =>
    let path := (shell.programOf? name).getD name
    .ok ⟨"sh", "/bin/sh", path :: arguments⟩
  | found => found

/-- Launches a program, and gives how it ends; the status if it cannot be launched. -/
def launch (name : Raw) (arguments : List Raw) : Run (Except Nat Ending) := do
  let shell ← get
  match shell.targetOf name arguments with
  | .error problem =>
    warn (name ++ ": " ++ refusalWording problem)
    return .error (refusalStatus problem)
  | .ok target =>
    let call : Call := ⟨target.name, target.arguments, shell.environment, shell.directory,
      shell.descriptors,
      shell.number⟩
    return .ok (← onSystem (perform target.program call))

/-- Carries out a command that is a program. The last one of a copy of the shell takes its place. -/
def runProgram (mode : Mode) (name : Raw) (arguments : List Raw) : Run Nat := do
  match ← launch perform name arguments with
  | .error status => return status
  | .ok ending => if mode.last && (← get).traps.isEmpty then endAs ending else report ending

/-! ## Builtins that carry out commands -/

/-- Carries out its arguments as a script. -/
def eval (mode : Mode) (arguments : List Raw) : Run Nat :=
  runScript run mode.tested (" ".intercalate arguments)

/-- Puts a program in the place of the shell. -/
def exec : List Raw → Run Nat
  | [] => return 0
  | name :: arguments => do
    match ← launch perform name arguments with
    | .error status => exitWith status
    | .ok ending =>
      update fun shell => { shell with traps := [] }
      endAs ending

/-- The path of a script that is carried out by its name. -/
def sourcePath (name : Raw) : Run Raw := do
  let shell ← get
  if name.toList.contains '/' then return name
  else
    let isFile (path : Raw) : Bool :=
      match shell.system.files.find shell.directory path with
      | .ok (.file _ _) => true
      | _ => false
    match (shell.programPath.map fun front => Launching.within front name).find? isFile with
    | some path => return path
    | none => refuse (name ++ ": not found")

/-- The text of a script. -/
def scriptText (path : Raw) : Run Raw := do
  match ← find path with
  | .ok (.file content _) => return content
  | .ok _ => return ""
  | .error problem => refuse (openingWording false path problem)

/-- Carries out a script in the shell itself. -/
def source (arguments : List Raw) : Run Nat := do
  match arguments with
  | [] => return 0
  | name :: _ =>
    let path ← sourcePath name
    let script ← scriptText path
    update fun shell => { shell with builtin := some path }
    match ← ExceptT.lift (runScript run false script).run with
    | .ok status => return status
    | .error .returned => return (← get).status
    | .error reason => leave reason

/-- Tells what a command is, as the command that looks past functions. -/
def inquire (arguments : List Raw) : Run Nat := do
  let (flags, names) ← builtinOptions "pvV" arguments
  match names with
  | [] => return 0
  | name :: _ => if flags.contains 'V' then describe name else identify name

/-- Ends the shell. -/
def exitBuiltin : List Raw → Run Nat
  | [] => do
    let shell ← get
    exitWith (shell.exitStatus.getD shell.status)
  | argument :: _ => do exitWith (← numberOfArgument argument)

/-- Ends a function or a script. -/
def returnBuiltin (arguments : List Raw) : Run Nat := do
  let status ←
    match arguments with
    | [] => pure (← get).status
    | argument :: _ => numberOfArgument argument
  update fun shell => { shell with status }
  leave .returned

/-- Gives the status of what was carried out in the background. -/
def wait : List Raw → Run Nat
  | [] => return 0
  | [argument] => do
    let jobs := (← get).jobs
    match argument.toList, (argument.drop 1).toNat? with
    | '%' :: _, some place => return ((jobs[place - 1]?).map Prod.snd).getD 127
    | _, _ =>
      let number ← numberOfArgument argument
      return (jobs.lookup number).getD 127
  | _ :: rest => wait rest

/-- Carries out a builtin. -/
def runBuiltin (mode : Mode) (name : Raw) (arguments : List Raw) : Run Nat :=
  match name with
  | ":" => return 0
  | "true" => return 0
  | "false" => return 1
  | "." => source run arguments
  | "eval" => eval run mode arguments
  | "exec" => exec perform arguments
  | "exit" => exitBuiltin arguments
  | "return" => returnBuiltin arguments
  | "break" => leaveLoops .broke arguments
  | "continue" => leaveLoops .continued arguments
  | "export" => exportBuiltin arguments
  | "readonly" => readonlyBuiltin arguments
  | "local" => localBuiltin arguments
  | "set" => setParameters arguments
  | "shift" => shift arguments
  | "trap" => trap arguments
  | "unset" => unset arguments
  | "echo" => do
    put (echoBuiltin arguments)
    return 0
  | "printf" => printf arguments
  | "[" => bracketTest arguments
  | "test" => test arguments
  | "cd" => cd arguments
  | "chdir" => cd arguments
  | "pwd" => pwd arguments
  | "alias" => aliasBuiltin arguments
  | "unalias" => unalias arguments
  | "umask" => umask arguments
  | "read" => readBuiltin arguments
  | "getopts" => getopts arguments
  | "kill" => kill arguments
  | "wait" => wait arguments
  | "command" => inquire arguments
  | "type" => type arguments
  | "hash" => hash arguments
  | "times" => do
    put "0m0.000000s 0m0.000000s\n0m0.000000s 0m0.000000s\n"
    return 0
  | "fg" => refuse "No current job"
  | "bg" => refuse "No current job"
  | "ulimit" => do
    let _ ← builtinOptions "HSatfdscmlpnvwr" arguments
    put "unlimited\n"
    return 0
  | _ => return 0

/-- Carries out a builtin under its name. An error in one that is not special is no more than a
status. -/
def withinBuiltin (name : Raw) (isMain : Bool) (act : Run Nat) : Run Nat := do
  let before := (← get).builtin
  update fun shell => { shell with builtin := some name }
  let result ← ExceptT.lift act.run
  update fun shell => { shell with builtin := before }
  match result with
  | .ok status =>
    if !(← get).isLost then return status
    else
      update fun shell => { shell with isLost := false, builtin := some name }
      warn (name ++ ": I/O error")
      update fun shell => { shell with builtin := before }
      return max status 1
  | .error .failed => if isMain then leave .failed else return (← get).status
  | .error reason => leave reason

/-- Carries out a function. -/
def callFunction (mode : Mode) (body : Command) (arguments : List Raw) : Run Nat := do
  let before ← get
  set { before with parameters := arguments, loops := 0, frames := [] :: before.frames }
  let result ← ExceptT.lift (run ⟨mode.tested, false⟩ body).run
  restore (((← get).frames.head?).getD [])
  update fun shell =>
    { shell with parameters := before.parameters, loops := before.loops, frames := before.frames }
  match result with
  | .ok status => return status
  | .error .returned => return (← get).status
  | .error reason => leave reason

/-! ## Simple commands -/

/-- The arguments that the first of some words become, up to one that becomes any, and the words
behind. -/
def firstArguments : List Word → Run (List Raw × List Word)
  | [] => return ([], [])
  | word :: rest => do
    match ← arguments (substitute run) word with
    | [] => firstArguments rest
    | found => return (found, rest)

/-- The arguments that words become behind a command that sets variables: assignments are not
split. -/
def declaredArguments : List Word → Run (List Raw)
  | [] => return []
  | word :: rest => do
    let first ←
      match assignment? word with
      | some (name, value) => do pure [name ++ "=" ++ (← assignedText (substitute run) value)]
      | none => arguments (substitute run) word
    return first ++ (← declaredArguments rest)

/-- The arguments that the words of a command become. -/
def commandArguments (words : List Word) : Run (List Raw) := do
  let (first, rest) ← firstArguments run words
  let declares : Bool := (first.head?).any ["export", "readonly", "local", "alias"].contains
  if declares then return first ++ (← declaredArguments run rest)
  else return first ++ (← allArguments (substitute run) rest)

/-- What stands behind `command` if it is to be carried out past functions: options that ask for
something else are left as they are. -/
def pastFunctions? : List Raw → Option (List Raw)
  | [] => none
  | "--" :: rest => if rest.isEmpty then none else some rest
  | "-p" :: rest => pastFunctions? rest
  | argument :: rest =>
    if argument.startsWith "-" && argument != "-" then none else some (argument :: rest)

/-- The command to carry out, and whether it is looked for past functions. -/
def withoutPrefix : Nat → Bool → List Raw → List Raw × Bool
  | 0, past, arguments => (arguments, past)
  | size + 1, past, arguments =>
    match arguments with
    | "command" :: rest =>
      match pastFunctions? rest with
      | some rest => withoutPrefix size true rest
      | none => (arguments, past)
    | arguments => (arguments, past)

/-- Sets the variables of assignments in front of a command. Those of a command that is not special
are kept to be put back, and made known to programs. -/
def assignAll (isKept isExported : Bool) :
    List Word → Run (List Raw × List (Raw × Option Binding))
  | [] => return ([], [])
  | word :: rest => do
    match assignment? word with
    | none => assignAll isKept isExported rest
    | some (name, value) =>
      let value ← assignedText (substitute run) value
      let before := (← get).bindings.lookup name
      assign name value
      if isExported then
        update fun shell =>
          { shell with bindings := alter shell.bindings name (Binding.withValue value true) }
      let (texts, saved) ← assignAll isKept isExported rest
      return ((name ++ "=" ++ value) :: texts, if isKept then saved ++ [(name, before)] else saved)

/-- Shows a command that is about to be carried out, if the shell is told to. -/
def trace (stream : Option Nat) (assigned arguments : List Raw) : Run Unit := do
  let shell ← get
  if shell.hasFlag 'x' && !shell.tracing then
    let mark := (shell.value? "PS4").getD ""
    match stream with
    | some stream =>
      onSystem (System.write stream (mark ++ " ".intercalate (assigned ++ arguments) ++ "\n"))
    | none => pure ()

/-- Carries out a command by its arguments. -/
def dispatch (mode : Mode) (pastFunctions : Bool) (name : Raw) (arguments : List Raw) :
    Run Nat := do
  let shell ← get
  if mainBuiltins.contains name then
    withinBuiltin name (!pastFunctions) (runBuiltin run perform mode name arguments)
  else
    match (if pastFunctions then none else shell.functions.lookup name) with
    | some body => callFunction run mode body arguments
    | none =>
      if plainBuiltins.contains name then
        withinBuiltin name false (runBuiltin run perform mode name arguments)
      else runProgram perform mode name arguments

/-- Carries out a command whose arguments are known, behind its redirections. -/
def runArguments (mode : Mode) (errors : Option Nat) (assignments : List Word) (all : List Raw) :
    Run Nat := do
  let (arguments, past) := withoutPrefix (all.length + 1) false all
  match arguments with
  | [] =>
    let (assigned, _) ← assignAll run false false assignments
    trace errors assigned []
    return (← get).substituted.getD 0
  | name :: rest =>
    let isMain := mainBuiltins.contains name && !past
    let (assigned, saved) ←
      assignAll run (!isMain) (!isMain || (name == "exec" && !rest.isEmpty)) assignments
    trace errors assigned all
    if saved.isEmpty then dispatch run perform mode past name rest
    else andThenCleanUp (dispatch run perform mode past name rest) (restore saved)

/-- Carries something out behind redirections, which are taken back then unless they are to stay.
The status if a redirection cannot be carried out, with whether it was. -/
def behindRedirects (leads : List Lead) (stays : Bool) (act : Run Nat) : Run (Nat × Bool) := do
  let before := (← get).descriptors
  match ← followAll leads with
  | some status =>
    update fun shell => { shell with descriptors := before }
    return (status, false)
  | none =>
    if leads.isEmpty || stays then return (← act, true)
    else
      return (← andThenCleanUp act
        (update fun shell => { shell with descriptors := before }), true)

/-- Carries out a simple command. -/
def runSimple (mode : Mode) (line : Nat) (assignments words : List Word)
    (redirects : List Redirect) :
    Run Nat := do
  update fun shell => { shell with line, substituted := none }
  let arguments ← commandArguments run words
  let isMain : Bool := (arguments.head?).any mainBuiltins.contains
  let leads ← leadsOf (substitute run) redirects
  let errors := (← get).descriptors.lookup 2
  let stays := (withoutPrefix (arguments.length + 1) false arguments).1 = ["exec"]
  let (status, isDone) ← behindRedirects leads stays
      (runArguments run perform mode errors assignments arguments)
  if !isDone && isMain then leave .failed else return status

/-! ## Commands -/

/-- How many turns a loop may have. -/
def patience : Nat := 100000000

/-- Carries out a command in terms of how the commands inside of it are carried out. -/
def step (mode : Mode) (command : Command) : Run Nat := do
  answerSignals run
  if (← get).hasFlag 'n' then return 0
  match command with
  | .nothing => return 0
  | .simple line assignments words redirects => do
    settle run mode true (← runSimple run perform mode line assignments words redirects)
  | .sequence first second => do
    let _ ← run ⟨mode.tested, false⟩ first
    run mode second
  | .ifSucceeded first second => do
    let status ← run ⟨true, false⟩ first
    if status = 0 then run mode second else settle run mode false status
  | .ifFailed first second => do
    let status ← run ⟨true, false⟩ first
    if status = 0 then settle run mode false status else run mode second
  | .negated inside => do
    let status ← run ⟨true, false⟩ inside
    settle run mode false (if status = 0 then 1 else 0)
  | .pipeline commands => do
    let status ← report (← runPiped run mode.tested none commands)
    settle run mode true status
  | .background inside => do
    settle run mode false (← runBehind run inside)
  | .choice test yes no => do
    let status ← run ⟨true, false⟩ test
    if status = 0 then run mode yes
    else
      match no with
      | .nothing => settle run mode false 0
      | no => run mode no
  | .loop untilSucceeded test body => do
    settle run mode false (← inLoop (loopFrom run mode untilSucceeded test body patience 0))
  | .each line name words body => do
    update fun shell => { shell with line }
    let words ← allArguments (substitute run) words
    settle run mode false (← inLoop (eachFrom run mode name body words 0))
  | .cases line word clauses => do
    update fun shell => { shell with line }
    let text ← text (substitute run) word
    settle run mode false (← runClauses run mode text clauses)
  | .redirected line body redirects => do
    update fun shell => { shell with line }
    let leads ← leadsOf (substitute run) redirects
    let (status, _) ← behindRedirects leads false (run ⟨mode.tested, false⟩ body)
    settle run mode false status
  | .apart line body redirects => do
    update fun shell => { shell with line }
    let leads ← leadsOf (substitute run) redirects
    let ending ← inCopy (toTheEnd run (do
      leads.forM follow
      run ⟨mode.tested, true⟩ body))
    if mode.last && (← get).traps.isEmpty then endAs ending
    else settle run mode true (← report ending)
  | .function _ name body => do
    update fun shell => { shell with functions := alter shell.functions name fun _ => body }
    settle run mode false 0

/-! ## Shells -/

/-- How a shell shows the directory that it begins in: as it was told, if that leads there. -/
def shownDirectory (system : System) (call : Call) : Raw :=
  let isThere (path : Raw) : Bool :=
    path.startsWith "/" && (system.files.locate true [] path).toOption == some call.directory
  ((call.environment.lookup "PWD").filter isThere).getD (placeText call.directory)

/-- The variables that a shell begins with. -/
def initialBindings (system : System) (call : Call) : List (Raw × Binding) :=
  let given := call.environment.filterMap fun (name, value) =>
    if isName name && name != "IFS" && name != "PPID" && name != "PWD" then
      some (name, ⟨some value, true, false⟩)
    else none
  let own : List (Raw × Raw) :=
    [("IFS", " \t\n"), ("OPTIND", "1"), ("PPID", toString call.launcher), ("PS1", "# "),
      ("PS2", "> "),
      ("PS4", "+ ")]
  (own.map fun (name, value) => (name, ⟨some value, false, false⟩)).foldl
    (fun bindings (name, binding) => if (bindings.lookup name).isSome then bindings
      else bindings ++ [(name, binding)])
    (given ++ [("PWD", ⟨some (shownDirectory system call), true, false⟩)])

/-- A shell that begins. -/
def ofCall (system : System) (call : Call) (number : Nat) : Shell where
  system := system
  name := call.name
  parameters := []
  bindings := initialBindings system call
  functions := []
  aliases := []
  traps := []
  flags := []
  status := 0
  substituted := none
  number := number
  background := none
  jobs := []
  line := 0
  builtin := none
  directory := call.directory
  shown := shownDirectory system call
  descriptors := call.descriptors
  loops := 0
  frames := []
  mask := 18
  bundle := []
  isCopy := false
  exitStatus := none
  tracing := false
  isLost := false

/-- Carries out what a shell is called for: a script among its arguments, or in a file, or its
input. -/
def begin (arguments : List Raw) : Run Nat := do
  let read ← readFlags true (arguments.length + 1) arguments
  match read.hasScript, read.arguments with
  | true, [] => refuse "-c requires an argument"
  | true, script :: rest =>
    update fun shell => { shell with name := rest.head?.getD shell.name, parameters := rest.drop 1 }
    runScript run false script
  | false, arguments =>
    match arguments, (← get).hasFlag 's' with
    | path :: rest, false =>
      let script ← scriptText path
      update fun shell => { shell with name := path, parameters := rest }
      runScript run false script
    | parameters, _ =>
      update fun shell => { shell with parameters, flags := withFlag shell.flags 's' true }
      match (← get).descriptors.lookup 0 with
      | some stream => runScript run false (← onSystem (System.takeAll stream))
      | none => return 0

/-- A shell as a program. -/
def program (call : Call) : OnSystem Ending := do
  let number ← System.takeNumber
  let system ← get
  let shell := ofCall { system with working := number :: system.working } call number
  let (result, after) := (toTheEnd run (begin run call.arguments)).run.run shell
  set { after.system with working := after.system.working.filter (· ≠ number) }
  match result with
  | .ok status => return .exited (status % 256)
  | .error (.killed signal) => return .killed signal
  | .error _ => return .exited (after.status % 256)

/-- How often programs may launch each other without a shell between them. -/
def launchLimit : Nat := 100

/-- Carries out a program; the number bounds how often programs launch others. -/
def performFrom : Nat → Raw → Call → OnSystem Ending
  | 0, _, _ => return .exited 126
  | limit + 1, name, call =>
    if name = "sh" ∨ name = "dash" then program run call
    else (Program.jobOf (performFrom limit) name).run call

/-- How deep commands may stand in each other. -/
def depthLimit : Nat := 20000

/-- Carries out a command; the number bounds how deep commands stand in it. -/
def runFrom : Nat → Mode → Command → Run Nat
  | 0, _, _ => leave .ended
  | depth + 1, mode, command =>
    step (runFrom depth) (performFrom (runFrom depth) launchLimit) mode command

/-- Carries out a program on a system. -/
def performProgram (name : Raw) (call : Call) : OnSystem Ending :=
  performFrom (runFrom depthLimit) launchLimit name call

end TenantHost.Rehearsal.Shell
