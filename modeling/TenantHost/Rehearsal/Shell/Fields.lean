import TenantHost.Rehearsal.Shell.Pattern
import TenantHost.Rehearsal.Files
/-!
# Fields

What becomes of a word once its values are in place: it is split into fields at the separators that
stand in values, and the fields that are patterns become the paths that they match.
-/

namespace TenantHost.Rehearsal.Shell

/-- Where a character of a word comes from: it was written, it was written in quotes, or it was
found in a value. -/
inductive Origin where
  | written
  | quoted
  | found
  deriving DecidableEq

/-- A piece of a word with its values in place: a character, the mark of quotes, or a border between
fields. -/
inductive Glyph where
  | char (c : Char) (origin : Origin)
  | mark
  | border

/-- The glyphs of a text. -/
def glyphsOf (origin : Origin) (text : Raw) : List Glyph :=
  text.toList.map fun c => .char c origin

/-- A character as a letter of a pattern. -/
def letterOf (c : Char) (origin : Origin) : Letter :=
  (c, origin = .quoted)

/-- Glyphs as letters, without borders. -/
def lettersOf (separator : List Char) (glyphs : List Glyph) : List Letter :=
  glyphs.flatMap fun
    | .char c origin => [letterOf c origin]
    | .mark => []
    | .border => separator.map fun c => (c, true)

/-- The text of letters. -/
def textOf (letters : List Letter) : Raw :=
  String.ofList (letters.map Prod.fst)

/-- Whether a separator is a blank; several of them are as good as one. -/
def isBlankSeparator (c : Char) : Bool :=
  c == ' ' || c == '\t' || c == '\n'

/-- The fields of glyphs. A field has begun if there is a character or a mark of it, which `begun`
tells; after a blank behind a field, `owed` tells that another separator would still belong to
it. -/
def splitFrom (separators : List Char) (field : List Letter) (begun owed : Bool) :
    List Glyph → List (List Letter)
  | [] => if begun then [field.reverse] else []
  | .mark :: rest => splitFrom separators field true false rest
  | .border :: rest =>
    if begun then field.reverse :: splitFrom separators [] false false rest
    else splitFrom separators [] false false rest
  | .char c origin :: rest =>
    if origin = .found ∧ separators.contains c then
      if begun then field.reverse :: splitFrom separators [] false (isBlankSeparator c) rest
      else if isBlankSeparator c then splitFrom separators [] false owed rest
      else if owed then splitFrom separators [] false false rest
      else [] :: splitFrom separators [] false false rest
    else splitFrom separators (letterOf c origin :: field) true false rest

/-- The fields of glyphs. -/
def split (separators : List Char) (glyphs : List Glyph) : List (List Letter) :=
  splitFrom separators [] false false glyphs

/-- The fields of a line for so many variables: the last one gets all that is left, without the
separators at its end. -/
def lineFields (separators : List Char) : Nat → List Letter → List Raw
  | 0, _ => []
  | 1, letters =>
    let isBlank (letter : Letter) : Bool :=
      !letter.2 && separators.contains letter.1 && isBlankSeparator letter.1
    let isOther (letter : Letter) : Bool :=
      !letter.2 && separators.contains letter.1 && !isBlankSeparator letter.1
    let trimmed := ((letters.dropWhile isBlank).reverse.dropWhile isBlank).reverse
    match trimmed.reverse with
    | last :: front =>
      if isOther last && !(front.any isOther) then [textOf (front.dropWhile isBlank).reverse]
      else [textOf trimmed]
    | [] => [""]
  | count + 2, letters =>
    let isSeparator (letter : Letter) : Bool := !letter.2 && separators.contains letter.1
    let isBlank (letter : Letter) : Bool := isSeparator letter && isBlankSeparator letter.1
    let letters := letters.dropWhile isBlank
    let field := letters.takeWhile fun letter => !isSeparator letter
    let behind := (letters.drop field.length).dropWhile isBlank
    let rest :=
      match behind with
      | letter :: rest => if isSeparator letter then rest else behind
      | [] => []
    textOf field :: lineFields separators (count + 1) rest

/-! ## Paths -/

/-- Letters cut at the slashes between them. -/
def pathParts : List Letter → List (List Letter)
  | [] => [[]]
  | letter :: rest =>
    if letter.1 = '/' then [] :: pathParts rest
    else
      match pathParts rest with
      | [] => [[letter]]
      | part :: parts => (letter :: part) :: parts

/-- The names in a directory that a pattern matches. Names that begin with a dot need a dot in the
pattern. -/
def matchingNames (files : Files) (place : Place) (pattern : Pattern) : List Raw :=
  let startsWithDot : Bool :=
    match pattern with
    | .char '.' :: _ => true
    | _ => false
  (["." , ".."] ++ files.namesIn place).filter fun name =>
    (startsWithDot || !name.startsWith ".") && pattern.covers name.toList

/-- The paths that begin in a way and go on with parts that are matched. -/
def matchingPaths (files : Files) (directory : Place) (front : Raw) :
    List (List Letter) → List Raw
  | [] => [front]
  | part :: rest =>
    let pattern := Pattern.ofLetters part
    if pattern.isProper then
      match files.locate true directory (if front = "" then "." else front) with
      | .error _ => []
      | .ok place =>
        (matchingNames files place pattern).flatMap fun name =>
          if rest.isEmpty then [front ++ name]
          else if (files.find directory (front ++ name)).toOption.any Entry.isDirectory then
            matchingPaths files directory (front ++ name ++ "/") rest
          else []
    else
      let text := front ++ textOf part
      if rest.isEmpty then
        if part.isEmpty || (files.look false directory text).toOption.isSome then [text] else []
      else matchingPaths files directory (text ++ "/") rest

/-- The paths that a field matches, or its text if there are none. -/
def pathsOf (files : Files) (directory : Place) (field : List Letter) : List Raw :=
  if (Pattern.ofLetters field).isProper then
    match matchingPaths files directory "" (pathParts field) with
    | [] => [textOf field]
    | paths => paths.mergeSort (· ≤ ·)
  else [textOf field]

end TenantHost.Rehearsal.Shell
