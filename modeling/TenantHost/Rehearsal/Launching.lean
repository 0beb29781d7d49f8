import TenantHost.Rehearsal.System
/-!
# What is launched

A program is looked for in the directories of the search path unless its name is a path. What is
found may be a script whose first line names the program that reads it, with one argument at most.
-/

namespace TenantHost.Rehearsal.Launching

/-- What to launch: the program, the name that it is called by, and its arguments. -/
structure Target where
  program : Raw
  name : Raw
  arguments : List Raw

/-- The mark of a script. -/
def mark : List Char := ['#', '!']

/-- The part of a script that tells what reads it. -/
def headLength : Nat := 256

/-- Whether a character separates the words of a first line. -/
def isGap (c : Char) : Bool :=
  c == ' ' || c == '\t'

/-- Whether a character ends the first word of a first line. -/
def endsFirstWord (c : Char) : Bool :=
  isGap c || c == '\x00'

/-- The program that the first line of a script names and the argument for it, if it names one. The
line has to end within the head of the script, or the first word of it at least. -/
def reader? (content : Raw) : Option (Raw × List Raw) :=
  let head := (content.toList.take headLength)
  let body := head.drop mark.length
  let line := body.takeWhile (· != '\n')
  let isWhole : Bool := line.length < body.length || head.length < headLength ||
    ((line.dropWhile isGap).any endsFirstWord)
  if !mark.isPrefixOf head || !isWhole then none
  else
    let line := ((line.dropWhile isGap).reverse.dropWhile isGap).reverse
    let name := line.takeWhile fun c => !endsFirstWord c
    let rest := line.drop name.length
    let argument :=
      match rest with
      | [] => []
      | '\x00' :: _ => []
      | rest => (rest.dropWhile isGap).takeWhile (· != '\x00')
    if name.isEmpty then none
    else some (String.ofList name, if argument.isEmpty then [] else [String.ofList argument])

/-- How often a script may be read by another one. -/
def depthLimit : Nat := 5

/-- What a path launches, seen from a directory. -/
def targetFrom (files : Files) (directory : Place) :
    Nat → Raw → Raw → List Raw → Except FileProblem Target
  | 0, _, _, _ => .error .tooManyLinks
  | depth + 1, path, name, arguments =>
    match files.find directory path with
    | .error problem => .error problem
    | .ok (.program program) => .ok ⟨program, name, arguments⟩
    | .ok (.file content mode) =>
      if !isLaunchMode mode then .error .permission
      else
        match reader? content with
        | some (reader, first) =>
          targetFrom files directory depth reader reader (first ++ path :: arguments)
        | none => .error .badFormat
    | .ok _ => .error .permission

/-- What a path launches with arguments. -/
def target (files : Files) (directory : Place) (path : Raw) (arguments : List Raw) :
    Except FileProblem Target :=
  targetFrom files directory (depthLimit + 1) path path arguments

/-- The directories of a search path; an empty name is the directory at hand. -/
def searchPath (text : Raw) : List Raw :=
  ((Text.fields (· == ':') text.toList).map String.ofList)

/-- The path of a name in a directory of a search path. -/
def within (front name : Raw) : Raw :=
  if front = "" then name else front ++ "/" ++ name

/-- Whether a problem only says that a program is not there. -/
def isAbsence (problem : FileProblem) : Bool :=
  problem = .missing || problem = .notDirectory

/-- What a name launches: the first program of that name in the search path. If there is none, the
first problem that says more than that counts. -/
def search (files : Files) (directory : Place) (path : List Raw) (name : Raw)
    (arguments : List Raw) :
    Except FileProblem Target :=
  if name.toList.contains '/' then target files directory name arguments
  else
    let found := path.map fun front =>
      (target files directory (within front name) arguments).map fun target =>
        if target.arguments = arguments then { target with name := name } else target
    match found.find? (·.toBool) with
    | some (.ok target) => .ok target
    | _ =>
      let problems := found.filterMap fun
        | .error problem => if isAbsence problem then none else some problem
        | .ok _ => none
      .error (problems.head?.getD .missing)

end TenantHost.Rehearsal.Launching
