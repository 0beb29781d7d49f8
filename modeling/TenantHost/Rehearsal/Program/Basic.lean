import TenantHost.Rehearsal.System
import TenantHost.Text.Quoted
/-!
# Programs

A program reads and writes the streams that its descriptors lead to, works on the files, and ends
with a status. What programs have in common stands here: how they complain, how they read their
options, and how they show the names of files.
-/

namespace TenantHost.Rehearsal

/-- What is done by a program. -/
abbrev Job (α : Type) : Type := ReaderT Call (StateM System) α

namespace Job

/-- Something done on the system. -/
def onSystem {α : Type} (act : OnSystem α) : Job α := fun _ => act

/-- The files. -/
def files : Job Files := do
  return (← getThe System).files

/-- Changes the files. -/
def mapFiles (f : Files → Files) : Job Unit :=
  onSystem (System.mapFiles f)

/-- Writes to a descriptor. -/
def writeTo (descriptor : Nat) (text : Raw) : Job Unit := do
  match (← read).descriptors.lookup descriptor with
  | some stream => onSystem (System.write stream text)
  | none => return ()

/-- Writes an output. -/
def put (text : Raw) : Job Unit :=
  writeTo 1 text

/-- Writes a complaint under the name of the program. -/
def complain (text : Raw) : Job Unit := do
  writeTo 2 ((← read).name ++ ": " ++ text ++ "\n")

/-- Complains, and gives the status for that. -/
def fail (text : Raw) (status : Nat) : Job Nat := do
  complain text
  return status

/-- Complains about the way that the program was called, and gives the status for that. -/
def misuse (text : Raw) (status : Nat) : Job Nat := do
  let name := (← read).name
  writeTo 2 (name ++ ": " ++ text ++ "\nTry '" ++ name ++ " --help' for more information.\n")
  return status

/-- The input. -/
def input : Job Raw := do
  match (← read).descriptors.lookup 0 with
  | some stream => onSystem (System.takeAll stream)
  | none => return ""

/-- What stands behind a path. -/
def find (path : Raw) : Job (Except FileProblem Entry) := do
  return (← files).find (← read).directory path

/-- Where a path leads; `last` tells whether a link at its end is followed. -/
def locate (last : Bool) (path : Raw) : Job (Except FileProblem Place) := do
  return (← files).locate last (← read).directory path

/-- The input, if it is not a directory. -/
def inputText : Job (Except FileProblem Raw) := do
  match (← read).descriptors.lookup 0 with
  | some number =>
    match ← onSystem (System.stream? number) with
    | some .directory => return .error .isDirectory
    | _ => return .ok (← onSystem (System.takeAll number))
  | none => return .ok ""

/-- The text of a file, or the input for a dash. -/
def fileText (path : Raw) : Job (Except FileProblem Raw) := do
  if path = "-" then inputText
  else
    match ← find path with
    | .ok (.file content _) => return .ok content
    | .ok (.directory _) => return .error .isDirectory
    | .ok _ => return .ok ""
    | .error problem => return .error problem

/-- The greatest status of what is done with each of some things. -/
def forEach {α : Type} (things : List α) (act : α → Job Nat) : Job Nat :=
  things.foldlM (fun status thing => do return max status (← act thing)) 0

/-- The texts of files with their names, or of the input if there are none; `status` is for the
files that cannot be read. -/
def texts (paths : List Raw) (status : Nat) : Job (List (Raw × Raw) × Nat) := do
  if paths.isEmpty then return ([("-", ← input)], 0)
  else
    let mut found : List (Raw × Raw) := []
    let mut worst := 0
    for path in paths do
      match ← fileText path with
      | .ok text => found := (path, text) :: found
      | .error problem => worst := ← fail (path ++ ": " ++ problem.wording) status
    return (found.reverse, worst)

end Job

/-! ## Options -/

/-- The options that were read, in order, with their values, and the other arguments. -/
structure Options where
  chosen : List (Char × Raw)
  others : List Raw

namespace Options

/-- Whether an option was chosen. -/
def has (options : Options) (option : Char) : Bool :=
  options.chosen.any (·.1 == option)

/-- The value that was given to an option last. -/
def value? (options : Options) (option : Char) : Option Raw :=
  (options.chosen.filter (·.1 == option)).getLast?.map Prod.snd

/-- What options a program knows: those by themselves, those with a value, and the long names of
both. The other arguments may come first if `mixed` is set. -/
structure Known where
  plain : String
  valued : String
  long : List (String × Char)
  mixed : Bool

/-- Reads the options of a bundle. With a value that is missing, the next argument is to be it. -/
def readBundle (known : Known) : List Char → Except Raw (List (Char × Raw) × Option Char)
  | [] => .ok ([], none)
  | c :: rest =>
    if known.valued.toList.contains c then
      if rest.isEmpty then .ok ([], some c) else .ok ([(c, String.ofList rest)], none)
    else if known.plain.toList.contains c then
      (readBundle known rest).map fun (chosen, open?) => ((c, "") :: chosen, open?)
    else .error ("invalid option -- '" ++ String.singleton c ++ "'")

/-- Reads an option by its long name; it may be cut short. -/
def readLong (known : Known) (argument : Raw) : Except Raw (Char × Option Raw) :=
  let text := argument.toList.drop 2
  let name := String.ofList (text.takeWhile (· != '='))
  let value := (text.dropWhile (· != '=')).tail?.map String.ofList
  match known.long.filter (fun known => known.1.startsWith name) with
  | [(_, option)] => .ok (option, value)
  | found =>
    match found.lookup name with
    | some option => .ok (option, value)
    | none => .error ("unrecognized option '" ++ argument ++ "'")

/-- Reads arguments. -/
def readFrom (known : Known) : Nat → List Raw → Except Raw Options
  | 0, arguments => .ok ⟨[], arguments⟩
  | _, [] => .ok ⟨[], []⟩
  | size + 1, argument :: rest =>
    let behind (chosen : List (Char × Raw)) (rest : List Raw) : Except Raw Options :=
      (readFrom known size rest).map fun options =>
        { options with chosen := chosen ++ options.chosen }
    if argument = "--" then .ok ⟨[], rest⟩
    else if argument.startsWith "--" then do
      let (option, value) ← readLong known argument
      if known.valued.toList.contains option then
        match value, rest with
        | some value, rest => behind [(option, value)] rest
        | none, value :: rest => behind [(option, value)] rest
        | none, [] => .error ("option '" ++ argument ++ "' requires an argument")
      else behind [(option, "")] rest
    else if argument.startsWith "-" && argument != "-" then do
      let (chosen, open?) ← readBundle known (argument.toList.drop 1)
      match open?, rest with
      | none, rest => behind chosen rest
      | some option, value :: rest => behind (chosen ++ [(option, value)]) rest
      | some option, [] =>
        .error ("option requires an argument -- '" ++ String.singleton option ++ "'")
    else if known.mixed then
      (readFrom known size rest).map fun options =>
        { options with others := argument :: options.others }
    else .ok ⟨[], argument :: rest⟩

/-- Reads arguments, or says why they cannot be read. -/
def read (known : Known) (arguments : List Raw) : Except Raw Options :=
  readFrom known (arguments.length + 1) arguments

end Options

/-- A job that begins with reading its options; `status` is for options that cannot be read. -/
def Job.withOptions (plain valued : String) (long : List (String × Char)) (status : Nat)
    (act : Options → Job Nat) : Job Nat := do
  match Options.read ⟨plain, valued, long, true⟩ (← read).arguments with
  | .ok options => act options
  | .error complaint => Job.misuse complaint status

/-! ## Quoting -/

/-- The letter that stands for a control character behind a backslash. -/
def controlLetter? (c : Char) : Option Char :=
  [('\x07', 'a'), ('\x08', 'b'), ('\t', 't'), ('\n', 'n'), ('\x0b', 'v'), ('\x0c', 'f'),
    ('\r', 'r')].lookup c

/-- A character of a text in octal digits. -/
def octal (c : Char) : List Char :=
  let digits := Nat.toDigits 8 c.toNat
  List.replicate (3 - digits.length) '0' ++ digits

/-- Whether a piece of a raw text can be shown as it is: a character that is printable. -/
def isShown : Text.Utf8.Piece → Bool
  | .char c => Text.isPrintable c
  | .malformed _ _ => false

/-- The bytes of a piece, as raw characters. -/
def pieceBytes : Text.Utf8.Piece → List Char
  | .char c => (Raw.ofText (String.singleton c)).toList
  | .malformed bytes _ => (Raw.ofBytes bytes).toList

/-- Characters with those that cannot be shown behind backslashes. -/
def escaped (quote : Char) (raw : Raw) : List Char :=
  (Text.Utf8.scan (Raw.bytes raw)).flatMap fun piece =>
    let bytes := pieceBytes piece
    if isShown piece then (if bytes = [quote] ∨ bytes = ['\\'] then '\\' :: bytes else bytes)
    else bytes.flatMap fun c =>
      '\\' :: ((controlLetter? c).map fun letter => [letter]).getD (octal c)

/-- A text between typographic quotes. -/
def curlyQuoted (raw : Raw) : Raw :=
  Raw.ofText "‘" ++ String.ofList (escaped '\x00' raw) ++ Raw.ofText "’"

/-- Whether a character needs no quotes in a shell. -/
def isSafe (c : Char) : Bool :=
  c.isAlphanum || "%+,-./:@]_".toList.contains c || c.toNat ≥ 128

/-- A text between single quotes, as a shell reads it. What cannot be shown is put between quotes of
its own. -/
def singleQuotedRuns : Bool → List Text.Utf8.Piece → List Char
  | isOpen, [] => if isOpen then ['\''] else []
  | isOpen, piece :: rest =>
    let bytes := pieceBytes piece
    if isShown piece then
      (if isOpen then ['\'', '\''] else []) ++
        (if bytes = ['\''] then ['\'', '\\', '\'', '\''] else bytes) ++ singleQuotedRuns false rest
    else
      (if isOpen then [] else ['\'', '$', '\'']) ++
        bytes.flatMap (fun c => '\\' :: ((controlLetter? c).map fun letter => [letter]).getD
          (octal c)) ++
        singleQuotedRuns true rest

/-- A text between quotes, as a shell reads it: double ones if it holds single ones and nothing else
that matters. -/
def shellQuoted (raw : Raw) : Raw :=
  let text := raw.toList
  let isTame (c : Char) : Bool := isSafe c || c == ' ' || c == '\''
  let pieces := Text.Utf8.scan (Raw.bytes raw)
  if text.contains '\'' && text.all isTame && pieces.all isShown then "\"" ++ raw ++ "\""
  else
    let body := singleQuotedRuns false pieces
    let close : List Char := if pieces.getLast?.any fun piece => !isShown piece then [] else ['\'']
    String.ofList ('\'' :: body ++ close)

/-- A text as a shell reads it, in quotes only if it needs them. -/
def shellQuotedIfNeeded (raw : Raw) : Raw :=
  let text := raw.toList
  let isPlain (c : Char) : Bool := isSafe c || c == '#' || c == '~' || c == '\x7b' || c == '\x7d'
  let beginsSafely := !raw.startsWith "#" && !raw.startsWith "~" && raw != "\x7b" && raw != "\x7d"
  if !text.isEmpty && text.all isPlain && beginsSafely &&
    (Text.Utf8.scan (Raw.bytes raw)).all isShown then raw
  else shellQuoted raw

end TenantHost.Rehearsal
