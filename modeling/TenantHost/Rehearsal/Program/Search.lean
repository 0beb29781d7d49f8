import TenantHost.Rehearsal.Program.Filing
import TenantHost.Rehearsal.Regex
/-!
# Programs that search

`grep` finds the lines that an expression matches, and `find` the files that have certain
properties.
-/

namespace TenantHost.Rehearsal.Program

/-! ## Lines -/

/-- How lines are searched: by expressions, one of which has to match. -/
structure LineSearch where
  regexes : List Regex
  negated : Bool
  wholeWord : Bool
  wholeLine : Bool

/-- Whether a match stands for a word, or a line, if it has to. -/
def LineSearch.accepts (search : LineSearch) (text : Array Char) (start stop : Nat) : Bool :=
  (!search.wholeLine || (start == 0 && stop == text.size)) &&
    (!search.wholeWord ||
      (!(start > 0 && (text[start - 1]?).any Regex.isWordChar) &&
        !(text[stop]?).any Regex.isWordChar))

/-- The first match from a place on that is accepted. -/
def LineSearch.next? (search : LineSearch) (text : Array Char) (place : Nat) :
    Option (Nat × Nat) :=
  ((List.range (text.size + 1 - place)).map (· + place)).findSome? fun start =>
    let ends := search.regexes.flatMap fun regex => (regex.ends text (start, [])).map Prod.fst
    let accepted := ends.filter (search.accepts text start)
    if accepted.isEmpty then none else some (start, accepted.foldl max 0)

/-- The matches in a text from a place on that are not empty; the first number bounds them. -/
def LineSearch.allFrom (search : LineSearch) (text : Array Char) : Nat → Nat → List (Nat × Nat)
  | 0, _ => []
  | size + 1, place =>
    match search.next? text place with
    | none => []
    | some (start, stop) =>
      if start < stop then (start, stop) :: search.allFrom text size stop
      else search.allFrom text size (start + 1)

/-- The lines of a text that are found, with their numbers. -/
def LineSearch.lines (search : LineSearch) (text : Raw) : List (Nat × Raw) :=
  ((Raw.lines text).zipIdx.filter fun (line, _) =>
    (search.next? (Raw.toText line).toList.toArray 0).isSome != search.negated).map
      fun (line, i) => (i + 1, line)

/-- The expressions that an argument writes, one on each line. -/
def readRegexes (options : Options) (extended : Bool) (patterns : Raw) : Except Raw (List Regex) :=
  let style : Regex.Style := ⟨extended, options.has 'i' || options.has 'y'⟩
  ((Text.fields (· == '\n') (Raw.toText patterns).toList)).mapM fun pattern =>
    if options.has 'F' then .ok (Regex.literal style pattern) else Regex.ofText style pattern

/-- Shows what was found in a text. -/
def showFound (options : Options) (search : LineSearch) (isNamed : Bool) (path text : Raw) :
    Job Bool := do
  let all := search.lines text
  let found := ((options.value? 'm').bind String.toNat?).elim all all.take
  let name : Raw := if path = "-" then "(standard input)" else path
  let front (number : Nat) : Raw :=
    (if isNamed then name ++ ":" else "")
      ++ (if options.has 'n' then toString number ++ ":" else "")
  if options.has 'q' then pure ()
  else if options.has 'l' then Job.put (if found.isEmpty then "" else name ++ "\n")
  else if options.has 'L' then Job.put (if found.isEmpty then name ++ "\n" else "")
  else if options.has 'c' then
    Job.put ((if isNamed then name ++ ":" else "") ++ toString found.length ++ "\n")
  else
    for (number, line) in found do
      if options.has 'o' then
        let chars := (Raw.toText line).toList.toArray
        if !search.negated then
          for (start, stop) in search.allFrom chars (chars.size + 1) 0 do
            let piece := String.ofList (chars.extract start stop).toList
            Job.put (front number ++ Raw.ofText piece ++ "\n")
      else Job.put (front number ++ line ++ "\n")
  return !found.isEmpty

/-- The files that are searched: those named, and those below directories if that is asked for. -/
def searchedPaths (deep : Bool) (paths : List Raw) : Job (List Raw) := do
  let files ← Job.files
  let directory := (← read).directory
  return paths.flatMap fun path =>
    if deep && (files.find directory path).toOption.any Entry.isDirectory then
      (pathsBelow files directory 100 path).filterMap fun (inside, entry) =>
        match entry with
        | .file _ _ => some inside
        | _ => none
    else [path]

/-- Finds the lines that expressions match. -/
def grep : Job Nat := do
  let known : Options.Known := ⟨"vicnqoEFGwxlLshHrRay", "emfABC",
    [("ignore-case", 'i'), ("invert-match", 'v'),
    ("count", 'c'), ("quiet", 'q'), ("silent", 'q'), ("line-number", 'n'), ("only-matching", 'o'),
    ("extended-regexp", 'E'), ("fixed-strings", 'F'), ("word-regexp", 'w'), ("line-regexp", 'x'),
      ("regexp", 'e')],
    true⟩
  match Options.read known (← read).arguments with
  | .error complaint =>
    Job.complain complaint
    Job.writeTo 2
      "Usage: grep [OPTION]... PATTERNS [FILE]...\nTry 'grep --help' for more information.\n"
    return 2
  | .ok options =>
    let given := (options.chosen.filter (·.1 == 'e')).map Prod.snd
    match given, options.others with
    | [], [] =>
      Job.writeTo 2
        "Usage: grep [OPTION]... PATTERNS [FILE]...\nTry 'grep --help' for more information.\n"
      return 2
    | given, others =>
      let (patterns, paths) :=
        if given.isEmpty then (others.head?.getD "", others.drop 1)
        else ("\n".intercalate given, others)
      let isExtended := options.has 'E' || (← read).name.endsWith "egrep"
      match readRegexes options isExtended patterns with
      | .error complaint => Job.fail complaint 2
      | .ok regexes =>
        let search : LineSearch := ⟨regexes, options.has 'v', options.has 'w', options.has 'x'⟩
        let deep := options.has 'r' || options.has 'R'
        let chosen ← searchedPaths deep (if paths.isEmpty then (if deep then ["."] else ["-"])
          else paths)
        let isNamed := (paths.length > 1 || deep || options.has 'H') && !options.has 'h'
        let mut isFound := false
        let mut isBroken := false
        for path in chosen do
          match ← Job.fileText path with
          | .ok text => if ← showFound options search isNamed path text then isFound := true
          | .error problem =>
            if !options.has 's' then Job.complain (path ++ ": " ++ problem.wording)
            isBroken := true
        return if isFound && options.has 'q' then 0 else if isBroken then
          2 else if isFound then 0 else 1

/-! ## Files -/

/-- What is asked of a file. -/
inductive FileTest where
  | name (pattern : Shell.Pattern)
  | path (pattern : Shell.Pattern)
  | type (letter : Raw)
  | empty
  | negated (test : FileTest)
  | either (first second : FileTest)
  | both (first second : FileTest)
  | all

/-- The pattern that an argument is. -/
def patternOfArgument (text : Raw) : Shell.Pattern :=
  Shell.Pattern.ofLetters (text.toList.map fun c => (c, false))

/-- Whether something is true of a file. -/
def FileTest.holds (files : Files) (directory : Place) (path : Raw) (entry : Entry) :
    FileTest → Bool
  | .name pattern => pattern.covers (lastName path).toList
  | .path pattern => pattern.covers path.toList
  | .type letter =>
    match entry with
    | .directory _ => letter == "d"
    | .link _ => letter == "l"
    | .device _ => letter == "c"
    | _ => letter == "f"
  | .empty =>
    match entry with
    | .file content _ => content == ""
    | .directory _ =>
      match files.locate false directory path with
      | .ok place => (files.namesIn place).isEmpty
      | .error _ => false
    | _ => false
  | .negated test => !test.holds files directory path entry
  | .either first second =>
    first.holds files directory path entry || second.holds files directory path entry
  | .both first second =>
    first.holds files directory path entry && second.holds files directory path entry
  | .all => true

/-- What to do with the files that are found, and how deep to look for them. -/
structure Finding where
  test : FileTest
  least : Nat
  most : Nat
  deletes : Bool
  zero : Bool

/-- Reads what is asked of files; the first number bounds the arguments. -/
def readFinding : Nat → Finding → Bool → List Raw → Except Raw Finding
  | 0, finding, _, _ => .ok finding
  | _, finding, _, [] => .ok finding
  | size + 1, finding, isNegated, argument :: rest =>
    let add (test : FileTest) (rest : List Raw) : Except Raw Finding :=
      let test := if isNegated then .negated test else test
      readFinding size { finding with test := .both finding.test test } false rest
    match argument, rest with
    | "-name", pattern :: rest => add (.name (patternOfArgument pattern)) rest
    | "-path", pattern :: rest => add (.path (patternOfArgument pattern)) rest
    | "-type", letter :: rest => add (.type letter) rest
    | "-empty", rest => add .empty rest
    | "!", rest => readFinding size finding true rest
    | "-not", rest => readFinding size finding true rest
    | "-a", rest => readFinding size finding isNegated rest
    | "-o", rest => do
      let other ← readFinding size { finding with test := .all } false rest
      .ok { other with test := .either finding.test other.test }
    | "-print", rest => readFinding size finding isNegated rest
    | "-print0", rest => readFinding size { finding with zero := true } isNegated rest
    | "-delete", rest => readFinding size { finding with deletes := true } isNegated rest
    | "-maxdepth", n :: rest =>
      readFinding size { finding with most := n.toNat?.getD 0 } isNegated rest
    | "-mindepth", n :: rest =>
      readFinding size { finding with least := n.toNat?.getD 0 } isNegated rest
    | other, _ => .error ("unknown predicate " ++ Raw.ofText "\x60" ++ other ++ "'")

/-- Finds files. -/
def find : Job Nat := do
  let call ← read
  let paths := call.arguments.takeWhile fun argument => !argument.startsWith "-" && argument != "!"
  let rest := call.arguments.drop paths.length
  match readFinding (rest.length + 1) ⟨.all, 0, 100, false, false⟩ false rest with
  | .error complaint => Job.fail complaint 1
  | .ok finding =>
    Job.forEach (if paths.isEmpty then ["."] else paths) fun path => do
      let files ← Job.files
      if (files.look false call.directory path).toOption.isNone then
        Job.fail (curlyQuoted path ++ ": No such file or directory") 1
      else
        let depth (inside : Raw) : Nat :=
          inside.toList.countP (· == '/') - path.toList.countP
            (· == '/') + (if path.endsWith "/" && inside ≠ path then 1 else 0)
        for (inside, entry) in pathsBelow files call.directory (finding.most + 1) path do
          if finding.least ≤ depth inside &&
            finding.test.holds files call.directory inside entry then
            if finding.deletes then
              if let .ok place := ← Job.locate false inside then
                Job.mapFiles fun files => files.erase place
            else Job.put (inside ++ (if finding.zero then "\x00" else "\n"))
        return 0

end TenantHost.Rehearsal.Program
