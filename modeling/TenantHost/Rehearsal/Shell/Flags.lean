import TenantHost.Rehearsal.Shell.Signals
/-!
# Flags and parameters

The flags that make a shell stricter or more talkative, and the parameters of its scripts.
-/

namespace TenantHost.Rehearsal.Shell

/-- The flags with their long names, in the order that they are listed in. -/
def flagNames : List (Char × Raw) :=
  [('e', "errexit"), ('f', "noglob"), ('I', "ignoreeof"), ('i', "interactive"), ('m', "monitor"),
    ('n', "noexec"),
    ('s', "stdin"), ('x', "xtrace"), ('v', "verbose"), ('V', "vi"), ('E', "emacs"),
      ('C', "noclobber"),
    ('a', "allexport"), ('b', "notify"), ('u', "nounset"), ('p', "privileged")]

/-- The long names of flags that have no letter and mean nothing. -/
def idleFlagNames : List Raw := ["nolog", "debug"]

/-- The flags with one set or taken away, in their order. -/
def withFlag (flags : List Char) (flag : Char) (isSet : Bool) : List Char :=
  flagNames.filterMap fun (known, _) =>
    if (if known = flag then isSet else flags.contains known) then some known else none

/-- Sets a flag or takes it away. -/
def setFlag (flag : Char) (isSet : Bool) : Run Unit := do
  if (flagNames.lookup flag).isSome then
    update fun shell => { shell with flags := withFlag shell.flags flag isSet }
  else refuse ("Illegal option -" ++ String.singleton flag)

/-- Sets a flag by its long name, or lists the flags: to be read by people, or as commands that set
them. -/
def setNamedFlag (isSet : Bool) (name : Option Raw) : Run Unit := do
  match name with
  | none =>
    let flags := (← get).flags
    let states : List (Raw × Bool) :=
      flagNames.map (fun (flag, name) => (name, flags.contains flag)) ++ idleFlagNames.map
        fun name => (name, false)
    if isSet then
      let line : Raw × Bool → Raw := fun (name, state) =>
        name ++ String.ofList (List.replicate (16 - name.length) ' ') ++ (if state then "on"
          else "off")
      put (Raw.ofLines ("Current option settings" :: states.map line))
    else
      put (Raw.ofLines (states.map fun (name, state) =>
        (if state then "set -o " else "set +o ") ++ name))
  | some name =>
    match flagNames.find? (·.2 == name) with
    | some (flag, _) => setFlag flag isSet
    | none => if !idleFlagNames.contains name then refuse ("Illegal option -o " ++ name)

/-- The flags of a bundle; a letter `o` takes the next argument. With `starting`, a letter `c` tells
that a script is to follow. The arguments that are left, and whether there was such a letter. -/
def readBundle (starting isSet : Bool) : List Char → List Raw → Run (List Raw × Bool)
  | [], arguments => return (arguments, false)
  | flag :: rest, arguments => do
    if flag = 'c' ∧ starting then
      let (arguments, _) ← readBundle starting isSet rest arguments
      return (arguments, true)
    else if flag = 'o' then
      setNamedFlag isSet arguments.head?
      readBundle starting isSet rest (arguments.drop 1)
    else
      setFlag flag isSet
      readBundle starting isSet rest arguments

/-- What arguments ask for beside flags: whether a script follows, whether the parameters are set,
and the arguments that are left. -/
structure FlagsRead where
  hasScript : Bool
  isEnded : Bool
  arguments : List Raw

/-- Reads the flags in front of arguments; the number bounds these. -/
def readFlags (starting : Bool) : Nat → List Raw → Run FlagsRead
  | 0, arguments => return ⟨false, false, arguments⟩
  | _, [] => return ⟨false, false, []⟩
  | size + 1, argument :: rest => do
    if argument = "--" then return ⟨false, true, rest⟩
    else if argument = "-" then
      if !starting then
        setFlag 'x' false
        setFlag 'v' false
      return ⟨false, false, rest⟩
    else if argument.startsWith "-" || argument.startsWith "+" then
      let (rest, hasScript) ← readBundle starting (argument.startsWith "-")
          (argument.toList.drop 1) rest
      let further ← readFlags starting size rest
      return { further with hasScript := further.hasScript || hasScript }
    else return ⟨false, false, argument :: rest⟩

/-- Whether a variable is listed: all are, or those that programs get to know, or those that are
fixed. -/
inductive Listing where
  | all
  | exported
  | fixed

/-- Lists variables behind a word, in order. -/
def listVariables (listing : Listing) (word : Raw) : Run Nat := do
  let isListed (binding : Binding) : Bool :=
    match listing with
    | .all => binding.value.isSome
    | .exported => binding.exported
    | .fixed => binding.fixed
  let listed := ((← get).bindings.filter (isListed ·.2)).mergeSort (fun a b => a.1 ≤ b.1)
  for (name, binding) in listed do
    put (word ++ name ++ (binding.value.map fun value => "=" ++ quotedValue value).getD "" ++ "\n")
  return 0

/-- Sets flags and parameters. -/
def setParameters (arguments : List Raw) : Run Nat := do
  if arguments.isEmpty then listVariables .all ""
  else
    let read ← readFlags false (arguments.length + 1) arguments
    if read.isEnded || !read.arguments.isEmpty then
      update fun shell => { shell with parameters := read.arguments }
    return 0

/-- Drops parameters in front. -/
def shift (arguments : List Raw) : Run Nat := do
  let count ←
    match arguments with
    | [] => pure 1
    | argument :: _ => numberOfArgument argument
  if (← get).parameters.length < count then refuse "can't shift that many"
  else
    update fun shell => { shell with parameters := shell.parameters.drop count }
    return 0

/-- What a builtin knows of its options: those by themselves, and those with a value. -/
structure KnownOptions where
  plain : String
  valued : String

/-- The options of a bundle, with the arguments behind it. A value stands in the bundle or is the
next argument; it is dropped. -/
def bundledOptions (known : KnownOptions) : List Char → List Raw → Run (List Char × List Raw)
  | [], arguments => return ([], arguments)
  | flag :: rest, arguments => do
    if known.valued.toList.contains flag then
      if rest.isEmpty && arguments.isEmpty then
        refuse ("No arg for -" ++ String.singleton flag ++ " option")
      else return ([flag], if rest.isEmpty then arguments.drop 1 else arguments)
    else if known.plain.toList.contains flag then
      let (flags, arguments) ← bundledOptions known rest arguments
      return (flag :: flags, arguments)
    else refuse ("Illegal option -" ++ String.singleton flag)

/-- The options in front of arguments, of which only some are known; the number bounds these. -/
def optionsFrom (known : KnownOptions) : Nat → List Raw → Run (List Char × List Raw)
  | 0, arguments => return ([], arguments)
  | _, [] => return ([], [])
  | size + 1, argument :: rest => do
    if argument = "--" then return ([], rest)
    else if argument.startsWith "-" && argument != "-" then
      let (flags, rest) ← bundledOptions known (argument.toList.drop 1) rest
      let (more, rest) ← optionsFrom known size rest
      return (flags ++ more, rest)
    else return ([], argument :: rest)

/-- The options in front of the arguments of a builtin. -/
def builtinOptions (plain : String) (arguments : List Raw) : Run (List Char × List Raw) :=
  optionsFrom ⟨plain, ""⟩ arguments.length arguments

end TenantHost.Rehearsal.Shell
