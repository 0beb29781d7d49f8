import TenantHost.Rehearsal.Permissions
import TenantHost.Rehearsal.Program.Basic
/-!
# Programs about files

The programs that list files, make them, take them away, and bring them elsewhere.
-/

namespace TenantHost.Rehearsal.Program

/-- The last name of a path. -/
def lastName (path : Raw) : Raw :=
  let kept := (path.toList.reverse.dropWhile (· == '/')).reverse
  if kept.isEmpty then (if path = "" then "" else "/")
  else String.ofList ((kept.reverse.takeWhile (· != '/')).reverse)

/-- Complains about a file, with the status one. -/
def failAbout (before path after : Raw) (problem : FileProblem) : Job Nat :=
  Job.fail (before ++ path ++ after ++ ": " ++ problem.wording) 1

/-- Whether a path leads to a directory. -/
def isDirectory (path : Raw) : Job Bool := do
  return ((← Job.find path).toOption).any Entry.isDirectory

/-- The place that a new entry can be put at, if its directory is there. -/
def freePlace (path : Raw) : Job (Except FileProblem Place) := do
  let trimmed := String.ofList (path.toList.reverse.dropWhile (· == '/')).reverse
  match ← Job.locate false (if trimmed = "" then path else trimmed) with
  | .error problem => return .error problem
  | .ok place =>
    return if ((← Job.files).entryAt? place).isSome then .error .present else .ok place

/-! ## Making and taking away -/

/-- Makes a directory and those on the way to it. -/
def makeAll (path : Raw) (mode : Nat) : Job Nat := do
  let start := Files.startOf (← read).directory path
  let names := Files.namesOf path
  let front (count : Nat) : Raw :=
    (if path.startsWith "/" then "/" else "") ++ "/".intercalate (names.take count)
  for count in (List.range names.length).map (· + 1) do
    match ← Job.find (front count) with
    | .ok (.directory _) => pure ()
    | .ok _ =>
      let problem : FileProblem := if count = names.length then .present else .notDirectory
      return ← failAbout "cannot create directory " (curlyQuoted (front count)) "" problem
    | .error .missing => pure ()
    | .error problem =>
      return ← failAbout "cannot create directory " (curlyQuoted (front count)) "" problem
  Job.mapFiles fun files => files.makeWay start (names.filter (· ≠ "."))
  if mode ≠ usualDirectoryMode then
    if let .ok place := ← Job.locate true path then
      Job.mapFiles fun files => files.put place (.directory mode)
  return 0

/-- Makes directories. -/
def mkdir : Job Nat :=
  Job.withOptions "pv" "m" [("parents", 'p'), ("mode", 'm'), ("verbose", 'v')] 1 fun options => do
    let mode := ((options.value? 'm').map fun text =>
      numberOf 8 (takeDigits 8 text.length text.toList).1).getD
      usualDirectoryMode
    if options.others.isEmpty then Job.misuse "missing operand" 1
    else
      Job.forEach options.others fun path => do
        if options.has 'p' then makeAll path mode
        else
          match ← freePlace path with
          | .error problem => failAbout "cannot create directory " (curlyQuoted path) "" problem
          | .ok place =>
            Job.mapFiles fun files => files.put place (.directory mode)
            if options.has 'v' then
              Job.put ("mkdir: created directory " ++ shellQuoted path ++ "\n")
            return 0

/-- Takes an empty directory away. -/
def removeDirectory (path : Raw) : Job Nat := do
  let refuse := failAbout "failed to remove " (shellQuoted path) ""
  match ← Job.locate false path with
  | .error problem => refuse problem
  | .ok place =>
    let files ← Job.files
    match files.entryAt? place with
    | none => refuse .missing
    | some (.directory _) =>
      if (files.namesIn place).isEmpty then
        Job.mapFiles fun files => files.erase place
        return 0
      else refuse .notEmpty
    | some _ => refuse .notDirectory

/-- Takes empty directories away. -/
def rmdir : Job Nat :=
  Job.withOptions "pv" "" [("parents", 'p')] 1 fun options => do
    if options.others.isEmpty then Job.misuse "missing operand" 1
    else
      Job.forEach options.others fun path => do
        let status ← removeDirectory path
        if options.has 'p' && status == 0 then
          let names := path.toList
          let parents := (List.range names.length).filter fun i => names[i]? == some '/' && i > 0
          Job.forEach parents.reverse fun i => removeDirectory (String.ofList (names.take i))
        else return status

/-- Takes files away, and directories if they are asked for. -/
def rm : Job Nat :=
  Job.withOptions "rRfdvi" "" [("recursive", 'r'), ("force", 'f'), ("dir", 'd')] 1 fun options => do
    let deep := options.has 'r' || options.has 'R'
    if options.others.isEmpty then
      (if options.has 'f' then return 0 else Job.misuse "missing operand" 1)
    else
      Job.forEach options.others fun path => do
        let refuse := failAbout "cannot remove " (shellQuoted path) ""
        match ← Job.locate false path with
        | .error problem =>
          if options.has 'f' && (problem = .missing || problem = .notDirectory) then return 0
          else refuse problem
        | .ok place =>
          match (← Job.files).entryAt? place with
          | none => if options.has 'f' then return 0 else refuse .missing
          | some (.directory _) =>
            if deep && (lastName path == "." || lastName path == "..") then
              Job.fail ("refusing to remove '.' or '..' directory: skipping " ++ shellQuoted path) 1
            else if deep || (options.has 'd' && ((← Job.files).namesIn place).isEmpty) then
              Job.mapFiles fun files => files.erase place
              if options.has 'v' then Job.put ("removed directory " ++ shellQuoted path ++ "\n")
              return 0
            else refuse (if options.has 'd' then .notEmpty else .isDirectory)
          | some _ =>
            Job.mapFiles fun files => files.erase place
            if options.has 'v' then Job.put ("removed " ++ shellQuoted path ++ "\n")
            return 0

/-- Makes files that are missing. -/
def touch : Job Nat :=
  Job.withOptions "acmh" "drt" [("no-create", 'c'), ("date", 'd'), ("reference", 'r')] 1
    fun options => do
    if options.others.isEmpty then Job.misuse "missing file operand" 1
    else
      Job.forEach options.others fun path => do
        match ← Job.locate true path with
        | .error problem =>
          if options.has 'c' && problem = .missing then return 0
          else failAbout "cannot touch " (shellQuoted path) "" problem
        | .ok place =>
          if !options.has 'c' && ((← Job.files).entryAt? place).isNone then
            Job.mapFiles fun files => files.write place ""
          return 0

/-! ## Bringing elsewhere -/

/-- The path that a file gets when it is brought to a target: within it if that is a directory. -/
def within (target path : Raw) : Job Raw := do
  if ← isDirectory target then
    return (if target.endsWith "/" then target else target ++ "/") ++ lastName path
  else return target

/-- The files that are brought somewhere, and where to; it has to be a directory if there are
several. -/
def bring (options : Options) (act : Raw → Raw → Job Nat) : Job Nat := do
  let sources := (options.value? 't').elim options.others.dropLast fun _ => options.others
  match (options.value? 't').or options.others.getLast?, sources with
  | none, _ => Job.misuse "missing file operand" 1
  | some only, [] => Job.misuse ("missing destination file operand after " ++ shellQuoted only) 1
  | some target, [path] => do
    if options.has 'T' || options.has 'n' then act path target
    else act path (← within target path)
  | some target, sources => do
    if ← isDirectory target then
      Job.forEach sources fun path => do act path (← within target path)
    else
      let problem : FileProblem :=
        match ← Job.find target with
        | .error problem => problem
        | .ok _ => .notDirectory
      Job.fail ("target " ++ shellQuoted target ++ ": " ++ problem.wording) 1

/-- The place that something is brought to. A slash at the end is for directories only. -/
def aimOf (last isDirectory : Bool) (target : Raw) : Job (Except FileProblem Place) := do
  match ← Job.locate last target with
  | .error .missing =>
    if !target.endsWith "/" then return .error .missing
    else
      match ← Job.locate last (String.ofList
        (target.toList.reverse.dropWhile (· == '/')).reverse) with
      | .ok aim => return if isDirectory then .ok aim else .error .notDirectory
      | .error problem => return .error problem
  | found => return found

/-- Brings a file to another place. -/
def moveTo (path target : Raw) : Job Nat := do
  match ← Job.locate false path with
  | .error problem => failAbout "cannot stat " (shellQuoted path) "" problem
  | .ok place =>
    let files ← Job.files
    match files.entryAt? place with
    | none => failAbout "cannot stat " (shellQuoted path) "" .missing
    | some entry =>
      let refuse := failAbout "cannot move " (shellQuoted path) (" to " ++ shellQuoted target)
      match ← aimOf false entry.isDirectory target with
      | .error problem => refuse problem
      | .ok aim =>
        if aim = place then
          Job.fail (shellQuoted path ++ " and " ++ shellQuoted target ++ " are the same file") 1
        else if entry.isDirectory && place.isPrefixOf aim then
          Job.fail ("cannot move " ++ shellQuoted path ++ " to a subdirectory of itself, "
            ++ shellQuoted target) 1
        else
          match files.entryAt? aim with
          | some (.directory _) =>
            if !entry.isDirectory then
              Job.fail ("cannot overwrite directory " ++ shellQuoted target
                ++ " with non-directory") 1
            else if (files.namesIn aim).isEmpty then
              Job.mapFiles fun files => files.move place aim
              return 0
            else refuse .notEmpty
          | some _ =>
            if entry.isDirectory then
              Job.fail ("cannot overwrite non-directory " ++ shellQuoted target
                ++ " with directory " ++
                shellQuoted path) 1
            else
              Job.mapFiles fun files => files.move place aim
              return 0
          | none =>
            Job.mapFiles fun files => files.move place aim
            return 0

/-- Moves files. -/
def mv : Job Nat :=
  Job.withOptions "fivT" "t" [("force", 'f'), ("target-directory", 't')] 1
    fun options => bring options moveTo

/-- Copies a file, or a directory with all that is in it if `deep` is set. -/
def copyTo (deep : Bool) (path target : Raw) : Job Nat := do
  let files ← Job.files
  match ← Job.locate (!deep) path with
  | .error problem => failAbout "cannot stat " (shellQuoted path) "" problem
  | .ok place =>
    match files.entryAt? place with
    | none => failAbout "cannot stat " (shellQuoted path) "" .missing
    | some entry =>
      if entry.isDirectory && !deep then
        Job.fail ("-r not specified; omitting directory " ++ shellQuoted path) 1
      else
        match ← aimOf true entry.isDirectory target with
        | .error problem =>
          failAbout (if entry.isDirectory then "cannot create directory "
            else "cannot create regular file ")
            (shellQuoted target) "" problem
        | .ok aim =>
          if aim = place then
            Job.fail (shellQuoted path ++ " and " ++ shellQuoted target ++ " are the same file") 1
          else
            match entry, files.entryAt? aim with
            | .directory _, some (.file _ _) =>
              Job.fail ("cannot overwrite non-directory " ++ shellQuoted target
                ++ " with directory " ++
                shellQuoted path) 1
            | .directory _, _ =>
              Job.mapFiles fun _ => files.foldl (fun after known =>
                if place.isPrefixOf known.1 then
                  after.put (aim ++ known.1.drop place.length) known.2 else after)
                files
              return 0
            | .file content _, some (.file _ mode) =>
              Job.mapFiles fun files => files.put aim (.file content mode)
              return 0
            | .device _, _ =>
              Job.mapFiles fun files => files.put aim (.file "" usualFileMode)
              return 0
            | entry, _ =>
              Job.mapFiles fun files => files.put aim entry
              return 0

/-- Copies files. -/
def cp : Job Nat :=
  Job.withOptions "rRafipvT" "t" [("recursive", 'r'), ("archive", 'a'), ("target-directory", 't')] 1
    fun options => bring options (copyTo (options.has 'r' || options.has 'R' || options.has 'a'))

/-- Makes a link. One that is not symbolic is a copy here. -/
def linkTo (symbolic force : Bool) (path target : Raw) : Job Nat := do
  let kind : Raw := if symbolic then "symbolic link " else "hard link "
  let source ← Job.find path
  match symbolic, source with
  | false, .error problem => failAbout "failed to access " (shellQuoted path) "" problem
  | false, .ok (.directory _) => Job.fail (path ++ ": hard link not allowed for directory") 1
  | _, source =>
    match ← Job.locate false target with
    | .error problem => failAbout ("failed to create " ++ kind) (shellQuoted target) "" problem
    | .ok aim =>
      if ((← Job.files).entryAt? aim).isSome && !force then
        failAbout ("failed to create " ++ kind) (shellQuoted target) "" .present
      else
        let entry := if symbolic then Entry.link path else source.toOption.getD (.link path)
        Job.mapFiles fun files => files.put aim entry
        return 0

/-- Makes links. -/
def ln : Job Nat :=
  Job.withOptions "sfnvT" "t" [("symbolic", 's'), ("force", 'f'), ("no-dereference", 'n')] 1
    fun options =>
    match options.others with
    | [path] => linkTo (options.has 's') (options.has 'f') path (lastName path)
    | _ => bring options (linkTo (options.has 's') (options.has 'f'))

/-- Shows where links lead. -/
def readlink : Job Nat :=
  Job.withOptions "fenmqs" "" [] 1 fun options => do
    if options.others.isEmpty then Job.misuse "missing operand" 1
    else
      Job.forEach options.others fun path => do
        if options.has 'f' || options.has 'e' || options.has 'm' then
          match ← Job.locate true path with
          | .ok place =>
            Job.put ("/" ++ "/".intercalate place ++ "\n")
            return 0
          | .error _ => return 1
        else
          match ← Job.locate false path with
          | .error _ => return 1
          | .ok place =>
            match (← Job.files).entryAt? place with
            | some (.link target) =>
              Job.put (if options.has 'n' then target else target ++ "\n")
              return 0
            | _ => return 1

/-- Shows paths without links and detours. -/
def realpath : Job Nat :=
  Job.withOptions "emqs" "" [] 1 fun options => do
    if options.others.isEmpty then Job.misuse "missing operand" 1
    else
      Job.forEach options.others fun path => do
        match ← Job.locate true path with
        | .ok place =>
          Job.put ("/" ++ "/".intercalate place ++ "\n")
          return 0
        | .error problem => Job.fail (path ++ ": " ++ problem.wording) 1

/-! ## Modes -/

/-- Changes the mode of what stands at a place. -/
def setMode (place : Place) (text : Raw) : Job Unit :=
  Job.mapFiles fun files =>
    match files.entryAt? place with
    | some (.file content mode) =>
      files.put place (.file content ((Permissions.changed mode false text).getD mode))
    | some (.directory mode) =>
      files.put place (.directory ((Permissions.changed mode true text).getD mode))
    | _ => files

/-- Changes the modes of files. -/
def chmod : Job Nat := do
  let isMode (argument : Raw) : Bool :=
    argument.startsWith "-" && (Permissions.changed 0 false argument).isSome
  let (modes, others) := (← read).arguments.partition isMode
  let known : Options.Known := ⟨"Rvcf", "", [("recursive", 'R')], true⟩
  match Options.read known others with
  | .error complaint => Job.misuse complaint 1
  | .ok options =>
    match modes ++ options.others with
    | [] => Job.misuse "missing operand" 1
    | [mode] => Job.misuse ("missing operand after " ++ curlyQuoted mode) 1
    | mode :: paths =>
      if (Permissions.changed 0 false mode).isNone then
        Job.misuse ("invalid mode: " ++ curlyQuoted mode) 1
      else
        Job.forEach paths fun path => do
          match ← Job.locate true path with
          | .error problem => failAbout "cannot access " (shellQuoted path) "" problem
          | .ok place =>
            let files ← Job.files
            if (files.entryAt? place).isNone then
              failAbout "cannot access " (shellQuoted path) "" .missing
            else
              setMode place mode
              if options.has 'R' then
                for (inside, _) in files do
                  if place.isPrefixOf inside && inside ≠ place then setMode inside mode
              return 0

/-! ## Listing -/

/-- How a listing shows a name. -/
def listedName (options : Options) (files : Files) (directory : Place) (name : Raw) : Raw :=
  let mark : Raw :=
    match files.look false directory name with
    | .ok (.directory _) => if options.has 'p' || options.has 'F' then "/" else ""
    | .ok (.link _) => if options.has 'F' then "@" else ""
    | .ok entry => if options.has 'F' && isLaunchMode entry.mode then "*" else ""
    | .error _ => ""
  name ++ mark

/-- The names in a directory as a listing shows them. -/
def listedNames (options : Options) (files : Files) (place : Place) : List Raw :=
  let names := files.namesIn place
  let all := if options.has 'a' then ["." , ".."] ++ names else names
  let shown := if options.has 'a' || options.has 'A' then
      all else all.filter fun name => !name.startsWith "."
  (if options.has 'r' then shown.reverse else shown).map (listedName options files place)

/-- The directories in a directory, for a listing of everything below it; the first number bounds
the depth. -/
def directoriesBelow (files : Files) : Nat → Raw → Place → List (Raw × Place)
  | 0, path, place => [(path, place)]
  | depth + 1, path, place =>
    let inside := (files.namesIn place).filter fun name =>
      !name.startsWith "." && (files.entryAt? (place ++ [name])).any Entry.isDirectory
    (path, place) :: inside.flatMap fun name =>
      directoriesBelow files depth (path ++ "/" ++ name) (place ++ [name])

/-- Lists files and directories. -/
def ls : Job Nat :=
  Job.withOptions "aA1dFprRltSULhngoi" "" [("all", 'a'), ("almost-all", 'A'), ("reverse", 'r'),
    ("recursive", 'R')] 2
    fun options => do
      let files ← Job.files
      let directory := (← read).directory
      let paths := if options.others.isEmpty then ["."] else options.others
      let sorted := paths.mergeSort fun a b => if options.has 'r' then b ≤ a else a ≤ b
      let status ← Job.forEach paths fun path => do
        match ← Job.find path with
        | .ok _ => return 0
        | .error problem =>
          if (files.look false directory path).toOption.isSome then return 0
          else Job.fail ("cannot access " ++ shellQuoted path ++ ": " ++ problem.wording) 2
      let found := sorted.filterMap fun path =>
        match files.locate true directory path, files.look false directory path with
        | .ok place, .ok entry => some (path, place, (files.entryAt? place).getD entry)
        | _, .ok entry => some (path, [], entry)
        | _, _ => none
      let (inside, plain) := found.partition fun (_, _, entry) =>
        entry.isDirectory && !options.has 'd'
      Job.put (Raw.ofLines (plain.map fun (path, _, _) => listedName options files directory path))
      let listings := inside.flatMap fun (path, place, _) =>
        if options.has 'R' then directoriesBelow files 100 path place else [(path, place)]
      let titled := paths.length > 1 || options.has 'R'
      for ((path, place), i) in listings.zipIdx do
        if i > 0 || !plain.isEmpty then Job.put "\n"
        if titled then Job.put (path ++ ":\n")
        Job.put (Raw.ofLines (listedNames options files place))
      return status

/-- The paths below a path, with what stands there; the first number bounds the depth. -/
def pathsBelow (files : Files) (directory : Place) : Nat → Raw → List (Raw × Entry)
  | 0, _ => []
  | depth + 1, path =>
    match files.look false directory path, files.locate false directory path with
    | .ok entry, .ok place =>
      let inside := if entry.isDirectory then files.namesIn place else []
      let front := if path.endsWith "/" then path else path ++ "/"
      (path, entry) :: inside.flatMap fun name => pathsBelow files directory depth (front ++ name)
    | _, _ => []

end TenantHost.Rehearsal.Program
