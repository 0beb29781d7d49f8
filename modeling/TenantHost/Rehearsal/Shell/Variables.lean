import TenantHost.Rehearsal.Shell.Fields
import TenantHost.Rehearsal.Shell.Flags
/-!
# Builtins about variables

The builtins of a shell that set variables: to texts, to lines of the input, and to the options of
its parameters.
-/

namespace TenantHost.Rehearsal.Shell

/-- A name and a value that an argument writes with an equals sign between them. -/
def nameAndValue (argument : Raw) : Raw × Option Raw :=
  let name := argument.toList.takeWhile (· != '=')
  (String.ofList name, (argument.toList.drop name.length).tail?.map String.ofList)

/-- Fails unless a text is the name of a variable. -/
def checkName (name : Raw) : Run Unit := do
  if !isName name then refuse (name ++ ": bad variable name")

/-- Marks variables, which are set before if there are values for them, or lists those that are
marked. -/
def mark (listing : Listing) (word : Raw) (change : Binding → Binding) (arguments : List Raw) :
    Run Nat := do
  let (flags, arguments) ← builtinOptions "p" arguments
  if arguments.isEmpty || flags.contains 'p' then listVariables listing word
  else
    for argument in arguments do
      let (name, value) := nameAndValue argument
      checkName name
      if let some value := value then assign name value
      update fun shell =>
        { shell with bindings := alter shell.bindings name fun known => change (known.getD
          ⟨none, false, false⟩) }
    return 0

/-- Makes variables known to programs. -/
def exportBuiltin : List Raw → Run Nat :=
  mark .exported "export " fun binding => { binding with exported := true }

/-- Makes variables fixed. -/
def readonlyBuiltin : List Raw → Run Nat :=
  mark .fixed "readonly " fun binding => { binding with fixed := true }

/-- Keeps what a variable is until the function at hand ends; a dash stands for the flags. -/
def keep (name : Raw) : Run Unit :=
  update fun shell =>
    let now := if name = "-" then some ⟨some (String.ofList shell.flags), false, false⟩
        else shell.bindings.lookup name
    match shell.frames with
    | frame :: rest =>
      if (frame.lookup name).isSome then shell
      else { shell with frames := ((name, now) :: frame) :: rest }
    | [] => shell

/-- Makes variables that last as long as a function. -/
def localBuiltin (arguments : List Raw) : Run Nat := do
  if (← get).frames.isEmpty then refuse "not in a function"
  else
    for argument in arguments do
      let (name, value) := nameAndValue argument
      if argument ≠ "-" then checkName name
      keep name
      if let some value := value then assign name value
    return 0

/-- Forgets variables or functions. -/
def unset (arguments : List Raw) : Run Nat := do
  let (flags, names) ← builtinOptions "vf" arguments
  for name in names do
    if flags.contains 'f' then
      update fun shell => { shell with functions := shell.functions.filter (·.1 ≠ name) }
    else
      checkName name
      if ((← get).bindings.lookup name).any Binding.fixed then refuse (name ++ ": is read only")
      update fun shell => { shell with bindings := shell.bindings.filter (·.1 ≠ name) }
  return 0

/-! ## Reading lines -/

/-- The letters of a line and whether it ends as a line does; the number bounds the lines that a
backslash joins. -/
def readLetters (stream : Nat) (plain : Bool) : Nat → Run (List Letter × Bool)
  | 0 => return ([], false)
  | size + 1 => do
    let (line, isEnded) ← onSystem (System.takeLine stream)
    if plain then return (line.toList.map fun c => (c, false), isEnded)
    else
      let rec escape : List Char → List Letter × Bool
        | [] => ([], false)
        | ['\\'] => ([], true)
        | '\\' :: c :: rest => ((c, true) :: (escape rest).1, (escape rest).2)
        | c :: rest => ((c, false) :: (escape rest).1, (escape rest).2)
      let (letters, goesOn) := escape line.toList
      if goesOn && isEnded then
        let (more, isEnded) ← readLetters stream plain size
        return (letters ++ more, isEnded)
      else return (letters, isEnded)

/-- Reads a line and splits it into variables. -/
def readBuiltin (arguments : List Raw) : Run Nat := do
  let (flags, names) ← optionsFrom ⟨"r", "p"⟩ arguments.length arguments
  if names.isEmpty then refuse "arg count"
  else
    for name in names do checkName name
    match (← get).descriptors.lookup 0 with
    | none => return 1
    | some stream =>
      let size := (← onSystem (System.unread stream)).length + 1
      let (letters, isEnded) ← readLetters stream (flags.contains 'r') size
      let separators := (((← get).value? "IFS").getD " \t\n").toList
      for (name, value) in names.zip (lineFields separators names.length letters) do
        assign name value
      return if isEnded then 0 else 1

/-! ## Options of parameters -/

/-- Ends the reading of options at a parameter. -/
def endOptions (name : Raw) (index : Nat) : Run Nat := do
  assign name "?"
  assign "OPTIND" (toString index)
  update fun shell => { shell with bundle := [] }
  return 1

/-- Gives out an option, and goes on at a parameter or within a bundle. -/
def giveOption (name option : Raw) (index : Nat) (bundle : List Char) : Run Nat := do
  assign name option
  assign "OPTIND" (toString index)
  update fun shell => { shell with bundle }
  return 0

/-- Gives out the next option of a bundle; the parameter at the index is the first one behind it. -/
def nextOption (known : List Char) (name : Raw) (parameters : List Raw) (index : Nat) :
    List Char → Run Nat
  | [] => endOptions name index
  | option :: rest => do
    let silent := known.head? = some ':'
    let text := String.singleton option
    match known.dropWhile (· != option), rest, parameters[index - 1]? with
    | _ :: ':' :: _, c :: rest, _ =>
      assign "OPTARG" (String.ofList (c :: rest))
      giveOption name text index []
    | _ :: ':' :: _, [], some value =>
      assign "OPTARG" value
      giveOption name text (index + 1) []
    | _ :: ':' :: _, [], none =>
      if silent then
        assign "OPTARG" text
        giveOption name ":" index []
      else
        writeTo 2 ("No arg for -" ++ text ++ " option\n")
        giveOption name "?" index []
    | known, rest, _ =>
      if known.isEmpty || option == ':' then
        if silent then assign "OPTARG" text else writeTo 2 ("Illegal option -" ++ text ++ "\n")
        giveOption name "?" index rest
      else
        assign "OPTARG" ""
        giveOption name text index rest

/-- Reads the next option of the parameters. -/
def getopts (arguments : List Raw) : Run Nat := do
  match arguments with
  | known :: name :: given =>
    let shell ← get
    let parameters := if given.isEmpty then shell.parameters else given
    let index := (((shell.value? "OPTIND").bind String.toNat?).getD 1).max 1
    if !shell.bundle.isEmpty && index > 1 then
      nextOption known.toList name parameters index shell.bundle
    else
      match parameters[index - 1]? with
      | some "--" => endOptions name (index + 1)
      | some parameter =>
        if parameter.startsWith "-" && parameter != "-" then
          nextOption known.toList name parameters (index + 1) (parameter.toList.drop 1)
        else endOptions name index
      | none => endOptions name index
  | _ => refuse "Usage: getopts optstring var [arg...]"

end TenantHost.Rehearsal.Shell
