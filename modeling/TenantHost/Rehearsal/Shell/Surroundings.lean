import TenantHost.Rehearsal.Launching
import TenantHost.Rehearsal.Permissions
import TenantHost.Rehearsal.Printing.Format
import TenantHost.Rehearsal.Shell.Tokens
import TenantHost.Rehearsal.Shell.Variables
import TenantHost.Rehearsal.Test
/-!
# Builtins about the surroundings

The builtins of a shell that look at the host and write about it: its directories, its files, and
its commands.
-/

namespace TenantHost.Rehearsal.Shell

/-! ## Directories -/

/-- The written form of a place. -/
def placeText (place : Place) : Raw :=
  "/" ++ "/".intercalate place

/-- A path seen from a written directory, without detours: a double dot takes the name in front of
it away, whatever it leads to. -/
def withoutDetours (directory path : Raw) : Raw :=
  let whole := if path.startsWith "/" then path else directory ++ "/" ++ path
  let isDoubled (text : Raw) : Bool := text.startsWith "//" && !text.startsWith "///"
  let root : Raw := if isDoubled path || (!path.startsWith "/" && isDoubled directory) then
      "//" else "/"
  let names := ((Text.fields (· == '/') whole.toList).map String.ofList).filter
      fun name => name ≠ "" ∧ name ≠ "."
  let kept := names.foldl (fun kept name => if name = ".." then kept.drop 1 else name :: kept) []
  root ++ "/".intercalate kept.reverse

/-- Goes to a directory, and tells whether it could. With `physical`, links on the way are not
shown. -/
def goTo (physical : Bool) (path : Raw) : Run Bool := do
  let shell ← get
  let shown := withoutDetours shell.shown path
  match shell.system.files.locate true shell.directory (if physical then path else shown) with
  | .error _ => return false
  | .ok place =>
    if !(shell.system.files.entryAt? place).any Entry.isDirectory then return false
    else
      let shown := if physical then placeText place else shown
      set { shell with directory := place, shown }
      exported "OLDPWD" shell.shown
      exported "PWD" shown
      return true
where
  /-- Sets a variable that programs get to know. -/
  exported (name value : Raw) : Run Unit := do
    assign name value
    update fun shell =>
      { shell with bindings := alter shell.bindings name (Binding.withValue value true) }

/-- The paths that a directory is looked for at, each with whether it is to be shown: in the
directories of the search path for directories, unless its name tells where it is. -/
def directoryPaths (shell : Shell) (path : Raw) : List (Raw × Bool) :=
  let first := String.ofList (path.toList.takeWhile (· != '/'))
  if path.startsWith "/" || first == "." || first == ".." then [(path, false)]
  else
    let path := if path = "" then "." else path
    let fronts := ((shell.value? "CDPATH").map Launching.searchPath).getD []
    fronts.map (fun front => (Launching.within front path, front != "")) ++ [(path, false)]

/-- Goes to the first directory of some paths. -/
def goToFirst (physical : Bool) : List (Raw × Bool) → Run (Option Bool)
  | [] => return none
  | (path, isShown) :: rest => do
    if ← goTo physical path then return some isShown else goToFirst physical rest

/-- Goes to another directory. -/
def cd (arguments : List Raw) : Run Nat := do
  let (flags, arguments) ← builtinOptions "LP" arguments
  let shell ← get
  let (path, isShown) :=
    match arguments with
    | [] => ((shell.value? "HOME").getD "", false)
    | "-" :: _ => ((shell.value? "OLDPWD").getD "", true)
    | path :: _ => (path, false)
  match ← goToFirst (flags.getLast? == some 'P') (shell.directoryPaths path) with
  | none => refuse ("can't cd to " ++ path)
  | some isFound =>
    if isShown || isFound then put ((← get).shown ++ "\n")
    return 0

/-- Writes the directory at hand. -/
def pwd (arguments : List Raw) : Run Nat := do
  let (flags, _) ← builtinOptions "LP" arguments
  let shell ← get
  put ((if flags.getLast? == some 'P' then placeText shell.directory else shell.shown) ++ "\n")
  return 0

/-- Writes or sets what new files are not permitted. -/
def umask (arguments : List Raw) : Run Nat := do
  let (flags, arguments) ← builtinOptions "S" arguments
  let mask := (← get).mask
  match arguments with
  | [] =>
    if flags.contains 'S' then
      let granted (scale : Nat) : Raw := Permissions.letters (7 - Permissions.digit mask scale)
      put ("u=" ++ granted 64 ++ ",g=" ++ granted 8 ++ ",o=" ++ granted 1 ++ "\n")
    else
      let digits := Nat.toDigits 8 mask
      put (String.ofList (List.replicate (4 - digits.length) '0' ++ digits) ++ "\n")
    return 0
  | text :: _ =>
    if (text.toList.head?).any Char.isDigit then
      match takeDigits 8 text.length text.toList with
      | (digits, []) => update fun shell => { shell with mask := numberOf 8 digits % 512 }
      | _ => refuse ("Illegal number: " ++ text)
    else
      match (if text = "" then some (511 - mask)
        else Permissions.afterClauses (511 - mask) false text) with
      | some mode => update fun shell => { shell with mask := 511 - mode % 512 }
      | none => refuse ("Illegal mode: " ++ text)
    return 0

/-! ## Tests and printing -/

/-- The wording of a test that cannot be decided. -/
def testWording : Test.Problem → Raw
  | .unexpected "" => "unexpected operator"
  | .unexpected argument => argument ++ ": unexpected operator"
  | .missingOperand operator => operator ++ ": argument expected"
  | .openBracket => "closing paren expected"
  | .noNumber text => "Illegal number: " ++ text

/-- Decides a test. -/
def test (arguments : List Raw) : Run Nat := do
  let shell ← get
  match Test.holds ⟨false, shell.system.files, shell.directory⟩ arguments with
  | .ok result => return if result then 0 else 1
  | .error problem => refuse (testWording problem)

/-- Decides a test in brackets. -/
def bracketTest (arguments : List Raw) : Run Nat := do
  if arguments.getLast? = some "]" then test arguments.dropLast else refuse "missing ]"

/-- Writes by a format. What is complained about comes first. -/
def printf (arguments : List Raw) : Run Nat := do
  let (_, arguments) ← builtinOptions "" arguments
  match arguments with
  | [] => refuse "usage: printf format [arg ...]"
  | format :: arguments =>
    let printed := Printer.builtin.print format arguments
    for event in printed.events do
      if let .complained text := event then warn text
    for event in printed.events do
      if let .wrote text := event then put text
    return printed.status

/-! ## Commands -/

/-- The builtins that are no special ones. -/
def plainBuiltins : List Raw :=
  ["[", "alias", "bg", "cd", "chdir", "command", "echo", "false", "fg", "getopts", "hash",
    "jobs", "kill",
    "printf", "pwd", "read", "test", "true", "type", "ulimit", "umask", "unalias", "wait"]

/-- What a command is. -/
inductive Meaning where
  | keyword
  | function
  | builtin (isMain : Bool)
  | program (path : Raw)

/-- The search path for programs. -/
def programPath (shell : Shell) : List Raw :=
  Launching.searchPath ((shell.value? "PATH").getD "")

/-- The path of a program by its name. -/
def programOf? (shell : Shell) (name : Raw) : Option Raw :=
  let isProgram (path : Raw) : Bool :=
    match shell.system.files.find shell.directory path with
    | .ok (.directory _) => false
    | .ok entry => isLaunchMode entry.mode
    | .error _ => false
  if name.toList.contains '/' then (if isProgram name then some name else none)
  else (shell.programPath.map fun front => Launching.within front name).find? isProgram

/-- What a command of a name is, if there is one. -/
def meaning? (shell : Shell) (name : Raw) : Option Meaning :=
  if keywords.contains name then some .keyword
  else if mainBuiltins.contains name then some (.builtin true)
  else if (shell.functions.lookup name).isSome then some .function
  else if plainBuiltins.contains name then some (.builtin false)
  else (shell.programOf? name).map .program

/-- What a command is, in words. -/
def Meaning.wording : Meaning → Raw
  | .keyword => "a shell keyword"
  | .function => "a shell function"
  | .builtin true => "a special shell builtin"
  | .builtin false => "a shell builtin"
  | .program path => path

/-- Tells in words what a command is. -/
def describe (name : Raw) : Run Nat := do
  match (← get).meaning? name with
  | some meaning =>
    put (name ++ " is " ++ meaning.wording ++ "\n")
    return 0
  | none =>
    put (name ++ ": not found\n")
    return 127

/-- Tells in words what commands are. -/
def type (names : List Raw) : Run Nat := do
  let mut status := 0
  for name in names do status := max status (← describe name)
  return status

/-- Tells what a command is by the text that one would write for it. -/
def identify (name : Raw) : Run Nat := do
  match (← get).meaning? name with
  | some (.program path) =>
    put (path ++ "\n")
    return 0
  | some _ =>
    put (name ++ "\n")
    return 0
  | none => return 127

/-- Looks programs up. -/
def hash (arguments : List Raw) : Run Nat := do
  let (_, names) ← builtinOptions "rv" arguments
  let mut status := 0
  for name in names do
    if ((← get).meaning? name).isNone then status := ← warnWith 1 (name ++ ": not found")
  return status

/-! ## Other names of commands -/

/-- Gives commands other names, or tells what such names stand for. -/
def aliasBuiltin (arguments : List Raw) : Run Nat := do
  let told (name value : Raw) : Raw := name ++ "=" ++ quotedValue value ++ "\n"
  if arguments.isEmpty then
    put (String.join ((← get).aliases.map fun (name, value) => told name value))
    return 0
  else
    let mut status := 0
    for argument in arguments do
      match nameAndValue argument, argument.startsWith "=" with
      | (name, some value), false =>
        update fun shell => { shell with aliases := alter shell.aliases name fun _ => value }
      | _, _ =>
        match (← get).aliases.lookup argument with
        | some value => put (told argument value)
        | none =>
          writeTo 2 ("alias: " ++ argument ++ " not found\n")
          status := 1
    return status

/-- Forgets other names of commands. -/
def unalias (arguments : List Raw) : Run Nat := do
  let (flags, names) ← builtinOptions "a" arguments
  if flags.contains 'a' then
    update fun shell => { shell with aliases := [] }
    return 0
  else
    let mut status := 0
    for name in names do
      if ((← get).aliases.lookup name).isNone then
        writeTo 2 ("unalias: " ++ name ++ " not found\n")
        status := 1
      update fun shell => { shell with aliases := shell.aliases.filter (·.1 ≠ name) }
    return status

end TenantHost.Rehearsal.Shell
