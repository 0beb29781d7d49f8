import TenantHost.Fault
import TenantHost.Rehearsal.Raw
/-!
# Files in memory

The files of a rehearsed host: a tree of directories with files, programs, devices and symbolic
links. A path is followed name by name; a link on the way leads on from where it stands.
-/

namespace TenantHost.Rehearsal

/-- A place in the tree: the names on the way to it from the root. -/
abbrev Place : Type := List Raw

/-- What a device makes of what is written to it, and gives when it is read: nothing. -/
inductive Device where
  | null
  deriving DecidableEq

/-- What stands at a place. The mode of a file or a directory tells who may do what with it. -/
inductive Entry where
  | file (content : Raw) (mode : Nat)
  | directory (mode : Nat)
  | link (target : Raw)
  | program (name : Raw)
  | device (device : Device)
  deriving DecidableEq

/-- Whether an entry is a directory. -/
def Entry.isDirectory : Entry → Bool
  | .directory _ => true
  | _ => false

/-- The mode of an entry. -/
def Entry.mode : Entry → Nat
  | .file _ mode => mode
  | .directory mode => mode
  | .link _ => 0o777
  | .program _ => 0o755
  | .device _ => 0o666

/-- Whether someone may launch what has a mode. -/
def isLaunchMode (mode : Nat) : Bool :=
  mode / 64 % 2 == 1 || mode / 8 % 2 == 1 || mode % 2 == 1

/-- The mode that a file gets unless it is told another one. -/
def usualFileMode : Nat := 0o644

/-- The mode that a directory gets unless it is told another one. -/
def usualDirectoryMode : Nat := 0o755

/-- The tree, as the places in it with what stands there. The root is always there. -/
abbrev Files : Type := List (Place × Entry)

namespace Files

/-- What stands at a place. -/
def entryAt? (files : Files) (place : Place) : Option Entry :=
  if place = [] then some (.directory usualDirectoryMode) else files.lookup place

/-! ## Following paths -/

/-- The names of a written path. A slash at the end asks for a directory, as `.` does. -/
def namesOf (path : Raw) : List Raw :=
  let names := ((Text.fields (· == '/') path.toList).map String.ofList).filter (· ≠ "")
  if path.endsWith "/" then names ++ ["."] else names

/-- Where a written path starts, seen from a directory. -/
def startOf (directory : Place) (path : Raw) : Place :=
  if path.startsWith "/" then [] else directory

/-- The greatest length of a name. -/
def nameLimit : Nat := 255

/-- The length that a path has to stay below. -/
def pathLimit : Nat := 4096

/-- The greatest number of links on the way. -/
def linkLimit : Nat := 40

/-- Follows names from a place on; what is passed has to be a directory. Links are followed, so many
at most; a link at the end only if `last` asks for it. The place at the end may be empty. -/
def follow (files : Files) (last : Bool) (links : Nat) (place : Place) (names : List Raw) :
    Except FileProblem Place :=
  match names with
  | [] => .ok place
  | name :: rest =>
    match files.entryAt? place with
    | some (.directory _) =>
      if nameLimit < name.length then .error .tooLongName
      else if name = "." then files.follow last links place rest
      else if name = ".." then files.follow last links place.dropLast rest
      else
        match files.entryAt? (place ++ [name]) with
        | some (.link target) =>
          if rest.isEmpty && !last then .ok (place ++ [name])
          else if links = 0 then .error .tooManyLinks
          else files.follow last (links - 1) (startOf place target) (namesOf target ++ rest)
        | _ => files.follow last links (place ++ [name]) rest
    | some _ => .error .notDirectory
    | none => .error .missing
termination_by (links, names.length)

/-- The place that a written path leads to, seen from a directory. -/
def locate (files : Files) (last : Bool) (directory : Place) (path : Raw) :
    Except FileProblem Place :=
  if path = "" then .error .missing
  else if pathLimit ≤ path.length then .error .tooLongName
  else files.follow last linkLimit (startOf directory path) (namesOf path)

/-- What stands behind a written path; `last` tells whether a link there is followed. -/
def look (files : Files) (last : Bool) (directory : Place) (path : Raw) :
    Except FileProblem Entry := do
  match files.entryAt? (← files.locate last directory path) with
  | some entry => .ok entry
  | none => .error .missing

/-- What stands behind a written path; links are followed. -/
def find (files : Files) (directory : Place) (path : Raw) : Except FileProblem Entry :=
  files.look true directory path

/-! ## Changes -/

/-- Puts an entry at a place. -/
def put (files : Files) (place : Place) (entry : Entry) : Files :=
  match files with
  | [] => [(place, entry)]
  | known :: rest =>
    if known.1 = place then (place, entry) :: rest else known :: put rest place entry

/-- Takes away what stands at a place and below it. -/
def erase (files : Files) (place : Place) : Files :=
  files.filter fun known => !place.isPrefixOf known.1

/-- Brings what stands at a place, and below it, to another one. -/
def move (files : Files) (source target : Place) : Files :=
  let moved := files.filterMap fun known =>
    if source.isPrefixOf known.1 then some (target ++ known.1.drop source.length, known.2) else none
  (files.filter fun known => !source.isPrefixOf known.1 && !target.isPrefixOf known.1) ++ moved

/-- Sets the content of a file, which is made if it is missing. -/
def write (files : Files) (place : Place) (content : Raw) : Files :=
  match files.entryAt? place with
  | some (.file _ mode) => files.put place (.file content mode)
  | some _ => files
  | none => files.put place (.file content usualFileMode)

/-- Adds to the end of a file, which is made if it is missing. -/
def append (files : Files) (place : Place) (content : Raw) : Files :=
  match files.entryAt? place with
  | some (.file before mode) => files.put place (.file (before ++ content) mode)
  | some _ => files
  | none => files.put place (.file content usualFileMode)

/-- Makes the directories that are missing on the way along names from a place. -/
def makeWay (files : Files) : Place → List Raw → Files
  | _, [] => files
  | place, name :: rest =>
    match files.follow true linkLimit place [name] with
    | .error _ => files
    | .ok next =>
      if (files.entryAt? next).isSome then files.makeWay next rest
      else makeWay (files.put next (.directory usualDirectoryMode)) next rest

/-- The names in a directory, in order. -/
def namesIn (files : Files) (directory : Place) : List Raw :=
  let inside := files.filterMap fun known =>
    if known.1 ≠ [] ∧ known.1.dropLast = directory then known.1.getLast? else none
  inside.mergeSort (· ≤ ·)

/-! ## Paths of the agent -/

/-- The written form of a path. -/
def rawPath (path : Path) : Raw :=
  Raw.ofText path.text

/-- Whether a path has a character that no path can have. -/
def isUnnameable (path : Path) : Bool :=
  path.names.any fun name => name.toList.contains '\x00'

/-- Whether something stands behind a path, seen from a directory. That cannot be told of a path
that is too long. -/
def isPresent (files : Files) (directory : Place) (path : Path) : Except Fault Bool :=
  if isUnnameable path then .ok false
  else
    match files.find directory (rawPath path) with
    | .ok _ => .ok true
    | .error .tooLongName => .error (.file .tooLongName (Text.quoted path.text))
    | .error _ => .ok false

/-- The bytes of a file, seen from a directory. -/
def read (files : Files) (directory : Place) (path : Path) : Except Fault (List UInt8) :=
  if isUnnameable path then .error .embeddedNull
  else
    match files.find directory (rawPath path) with
    | .ok (.file content _) => .ok (Raw.bytes content)
    | .ok (.directory _) => .error (.file .isDirectory (Text.quoted path.text))
    | .ok _ => .ok []
    | .error problem => .error (.file problem (Text.quoted path.text))

/-- Takes a file or a link away; `path` is as it was written. -/
def remove (files : Files) (directory : Place) (path : String) : Except Fault Files :=
  let refuse (problem : FileProblem) : Except Fault Files :=
    .error (.file problem (Text.quoted path))
  if path.toList.contains '\x00' then .error .embeddedNull
  else
    match files.locate false directory (Raw.ofText path) with
    | .error problem => refuse problem
    | .ok place =>
      match files.entryAt? place with
      | none => refuse .missing
      | some (.directory _) => refuse .isDirectory
      | some _ => .ok (files.erase place)

end Files

end TenantHost.Rehearsal
