import TenantHost.Rehearsal.Launching
import TenantHost.Rehearsal.Program.Basic
/-!
# Programs that launch others

The programs that launch another one with other variables, with other arguments, or for some time
only.
-/

namespace TenantHost.Rehearsal.Program

variable (perform : Raw → Call → OnSystem Ending)

/-- Launches a program in the place of the one at work; its own name is in front of the
complaint. -/
def launchWith (environment : List (Raw × Raw)) (name : Raw) (arguments : List Raw)
    (quote : Raw → Raw) :
    Job Ending := do
  let call ← read
  let path := ((environment.lookup "PATH").map Launching.searchPath).getD ["/bin", "/usr/bin"]
  let found : Except FileProblem Launching.Target :=
    match Launching.search (← Job.files) call.directory path name arguments with
    | .error .badFormat => .ok ⟨"sh", "/bin/sh", name :: arguments⟩
    | found => found
  match found with
  | .ok target =>
    let next : Call := { call with name := target.name, arguments := target.arguments, environment }
    Job.onSystem (perform target.program next)
  | .error problem =>
    Job.complain (quote name ++ ": " ++ problem.wording)
    return .exited (if problem = .missing then 127 else 126)

/-- The variables behind an assignment. -/
def withVariable (environment : List (Raw × Raw)) (name value : Raw) : List (Raw × Raw) :=
  if (environment.lookup name).isSome then
    environment.map fun known => if known.1 = name then (name, value) else known
  else environment ++ [(name, value)]

/-- The variables behind the assignments in front of arguments, and the other arguments. -/
def takeVariables (environment : List (Raw × Raw)) : List Raw → List (Raw × Raw) × List Raw
  | [] => (environment, [])
  | argument :: rest =>
    let name := argument.toList.takeWhile (· != '=')
    if argument.toList.contains '=' && !name.isEmpty then
      let value := String.ofList (argument.toList.drop (name.length + 1))
      takeVariables (withVariable environment (String.ofList name) value) rest
    else (environment, argument :: rest)

/-- Launches a program with other variables, or writes the variables. -/
def env : Job Ending := do
  let call ← read
  let known : Options.Known := ⟨"i0v", "uC",
    [("ignore-environment", 'i'), ("unset", 'u'), ("null", '0')], false⟩
  match Options.read known call.arguments with
  | .error complaint => return .exited (← Job.misuse complaint 125)
  | .ok options =>
    let isEmptied := options.has 'i' || options.others.head? = some "-"
    let others := if options.others.head? = some "-" then options.others.drop 1 else options.others
    let removed := (options.chosen.filter (·.1 == 'u')).map Prod.snd
    let begun := if isEmptied then [] else call.environment.filter
        fun known => !removed.contains known.1
    match takeVariables begun others with
    | (environment, []) =>
      let finish : Raw := if options.has '0' then "\x00" else "\n"
      Job.put (String.join (environment.map fun (name, value) => name ++ "=" ++ value ++ finish))
      return .exited 0
    | (environment, name :: arguments) => launchWith perform environment name arguments curlyQuoted

/-- Launches a program that is to end within some time, as every program here does. -/
def timeout : Job Ending := do
  let call ← read
  match Options.read ⟨"fpv", "sk", [("signal", 's'), ("kill-after", 'k'), ("foreground", 'f'),
      ("preserve-status", 'p'), ("verbose", 'v')], false⟩ call.arguments with
  | .error complaint => return .exited (← Job.misuse complaint 125)
  | .ok options =>
    match options.others with
    | time :: name :: arguments =>
      let (digits, rest) := ((time.takeWhile fun c => c.isDigit || c == '.').toString,
        (time.dropWhile fun c => c.isDigit || c == '.').toString)
      if digits = "" || !(["", "s", "m", "h", "d"].contains rest) then
        return .exited (← Job.misuse ("invalid time interval " ++ curlyQuoted time) 125)
      else
        launchWith perform call.environment name arguments fun name =>
          "failed to run command " ++ curlyQuoted name
    | _ =>
      Job.writeTo 2 "Try 'timeout --help' for more information.\n"
      return .exited 125

/-- Launches a program that goes on by itself. -/
def nohup : Job Ending := do
  let call ← read
  match call.arguments with
  | [] => return .exited (← Job.misuse "missing operand" 125)
  | "--" :: name :: arguments => launchWith perform call.environment name arguments quoted
  | name :: arguments => launchWith perform call.environment name arguments quoted
where
  /-- The name in the complaint. -/
  quoted (name : Raw) : Raw := "failed to run command " ++ shellQuoted name

/-! ## Arguments from the input -/

/-- The word at the front of a text, up to a blank that is not quoted; the first number bounds
it. -/
def takeQuotedWord : Nat → List Char → List Char × List Char
  | 0, rest => ([], rest)
  | _, [] => ([], [])
  | size + 1, c :: rest =>
    if c = '\\' then
      match rest with
      | d :: rest => let (word, rest) := takeQuotedWord size rest; (d :: word, rest)
      | [] => ([], [])
    else if c = '\'' ∨ c = '"' then
      let inside := rest.takeWhile (· != c)
      let (word, rest) := takeQuotedWord size (rest.drop (inside.length + 1))
      (inside ++ word, rest)
    else if c = ' ' ∨ c = '\t' ∨ c = '\n' then ([], c :: rest)
    else let (word, rest) := takeQuotedWord size rest; (c :: word, rest)

/-- The words of an input; the first number bounds it. -/
def quotedWords : Nat → List Char → List Raw
  | 0, _ => []
  | size + 1, text =>
    match text.dropWhile fun c => c == ' ' || c == '\t' || c == '\n' with
    | [] => []
    | text =>
      let (word, rest) := takeQuotedWord text.length text
      String.ofList word :: quotedWords size rest

/-- Items in groups of so many; the first number bounds how many groups. -/
def inGroups (count : Nat) : Nat → List Raw → List (List Raw)
  | 0, _ => []
  | _, [] => []
  | size + 1, items => items.take count :: inGroups count size (items.drop count)

/-- The status behind a program that was launched for some items. -/
def itemsStatus (before : Nat) : Ending → Nat
  | .exited 0 => before
  | .exited status =>
    if status = 126 ∨ status = 127 then status else if status = 255 then 124 else 123
  | .killed _ => 125

/-- Launches a program with the words of the input as arguments. -/
def xargs : Job Ending := do
  let call ← read
  match Options.read ⟨"0rt", "nIdLPs",
    [("null", '0'), ("no-run-if-empty", 'r'), ("max-args", 'n'),
      ("delimiter", 'd'), ("replace", 'I'), ("verbose", 't')], false⟩ call.arguments with
  | .error complaint => return .exited (← Job.misuse complaint 1)
  | .ok options =>
    let text := (← Job.input).toList
    let apart (c : Char) : List Raw :=
      let fields := (Text.fields (· == c) text).map String.ofList
      if fields.getLast? = some "" then fields.dropLast else fields
    let lines := ((Raw.lines (String.ofList text)).map fun line =>
      (line.dropWhile fun c => c == ' ' || c == '\t').toString).filter (· ≠ "")
    let items :=
      if options.has '0' then apart '\x00'
      else
        match options.value? 'd' with
        | some separator =>
          apart (if separator = "\\n" then '\n' else (separator.toList.head?).getD '\x00')
        | none => if options.has 'I' then lines else quotedWords text.length text
    let command := if options.others.isEmpty then ["echo"] else options.others
    let groups :=
      match options.value? 'I', (options.value? 'n').bind String.toNat? with
      | some mark, _ =>
        items.map fun item => command.map fun word => if mark = "" then
          word else word.replace mark item
      | none, some (n + 1) => (inGroups (n + 1) items.length items).map (command ++ ·)
      | none, _ => [command ++ items]
    let wanted := if items.isEmpty && (options.has 'r' || options.has 'I') then [] else groups
    let wanted := if wanted.isEmpty && !options.has 'r' && !options.has 'I' then [command]
        else wanted
    let mut status := 0
    for words in wanted do
      if options.has 't' then Job.writeTo 2 (" ".intercalate words ++ "\n")
      if let name :: arguments := words then
        let ending ← launchWith perform call.environment name arguments id
        status := itemsStatus status ending
        if status > 123 then break
    return .exited status

end TenantHost.Rehearsal.Program
