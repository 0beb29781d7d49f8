import TenantHost.Rehearsal.Shell.Arithmetic
import TenantHost.Rehearsal.Shell.Fields
import TenantHost.Rehearsal.Shell.State
/-!
# The values of words

The parts of a word get their values one after the other. How a script inside of a word is carried
out is left to `substitute`, which gives what it writes.
-/

namespace TenantHost.Rehearsal.Shell

variable (substitute : Command → Run Raw)

/-! ## Parameters -/

/-- The characters that separate fields. -/
def separators (shell : Shell) : List Char :=
  ((shell.value? "IFS").getD " \t\n").toList

/-- What stands between parameters that are joined: the first separator. -/
def joint (shell : Shell) : List Char :=
  shell.separators.take 1

/-- The parameters joined to one text. -/
def joined (shell : Shell) : Raw :=
  (String.ofList shell.joint).intercalate shell.parameters

/-- Whether a name means all parameters. -/
def isAll (name : Raw) : Bool :=
  name == "@" || name == "*"

/-- The value of a parameter. -/
def parameter? (shell : Shell) (name : Raw) : Option Raw :=
  match name with
  | "@" => if shell.parameters.isEmpty then none else some shell.joined
  | "*" => if shell.parameters.isEmpty then none else some shell.joined
  | "#" => some (toString shell.parameters.length)
  | "?" => some (toString shell.status)
  | "$" => some (toString shell.number)
  | "!" => shell.background.map fun number => toString number
  | "-" => some (String.ofList shell.flags.reverse)
  | name =>
    match name.toNat? with
    | some 0 => some shell.name
    | some n => shell.parameters[n - 1]?
    | none => shell.value? name

/-- The glyphs of a value. -/
def valueGlyphs (quoted : Bool) (value : Raw) : List Glyph :=
  glyphsOf (if quoted then .quoted else .found) value

/-- The glyphs of all parameters. In quotes each of them is a field of its own, unless they are to
be joined. -/
def allGlyphs (shell : Shell) (name : Raw) (quoted : Bool) : List Glyph :=
  if quoted && name == "*" then valueGlyphs true shell.joined
  else
    let each := shell.parameters.map fun value =>
      if quoted then .mark :: valueGlyphs true value else valueGlyphs false value
    (each.intersperse [.border]).flatten

/-- The glyphs of a parameter as it is. -/
def parameterGlyphs (shell : Shell) (name : Raw) (quoted : Bool) : List Glyph :=
  if isAll name then shell.allGlyphs name quoted
  else ((shell.parameter? name).map (valueGlyphs quoted)).getD []

/-- The text of glyphs that are not split. -/
def wholeText (shell : Shell) (glyphs : List Glyph) : Raw :=
  textOf (lettersOf shell.joint glyphs)

/-- Glyphs that came out of the word of a parameter: what was written there may be split. -/
def asFound (glyphs : List Glyph) : List Glyph :=
  glyphs.map fun
    | .char c .written => .char c .found
    | glyph => glyph

/-- Fails because a parameter is not set. -/
def refuseUnset {α : Type} (name : Raw) (text : Raw) : Run α :=
  refuse (name ++ ": " ++ text)

/-- What is made of the value of a parameter; `word` gives the glyphs of the word that belongs to
it. -/
def changed (name : Raw) (change : Change) (quoted : Bool) (word : Run (List Glyph)) :
    Run (List Glyph) := do
  let shell ← get
  let value := shell.parameter? name
  let lacks (orEmpty : Bool) : Bool := value.isNone || (orEmpty && value == some "")
  let plain := shell.parameterGlyphs name quoted
  let ofValue (act : Raw → Run (List Glyph)) : Run (List Glyph) := do
    match value with
    | some value => act value
    | none =>
      if shell.hasFlag 'u' && !isAll name then refuseUnset name "parameter not set" else act ""
  let cut (cutting : Pattern → List Char → List Char) : Run (List Glyph) :=
    ofValue fun value => do
      let pattern := Pattern.ofLetters (lettersOf shell.joint (← word))
      return valueGlyphs quoted (String.ofList (cutting pattern value.toList))
  match change with
  | .none => ofValue fun _ => pure plain
  | .length => ofValue fun value => pure (valueGlyphs quoted (toString value.length))
  | .usual orEmpty => if lacks orEmpty then return asFound (← word) else return plain
  | .instead orEmpty => if lacks orEmpty then return [] else return asFound (← word)
  | .assigned orEmpty =>
    if lacks orEmpty then
      let text := shell.wholeText (← word)
      assign name text
      return valueGlyphs quoted text
    else return plain
  | .required orEmpty =>
    if lacks orEmpty then
      let text := shell.wholeText (← word)
      refuseUnset name (if text ≠ "" then text
        else if orEmpty then "parameter not set or null" else "parameter not set")
    else return plain
  | .cutFront longest => cut fun pattern => pattern.cutFront longest
  | .cutBack longest => cut fun pattern => pattern.cutBack longest
  | .unknown => refuse "Bad substitution"

/-- The value of arithmetic. -/
def arithmeticValue (text : Raw) : Run Raw := do
  match arithmetic (← get).value? text with
  | .error problem => refuse (problem.wording text)
  | .ok (n, assigned) =>
    for (name, value) in assigned do
      assign name (toString value)
    return toString n

/-! ## Words -/

mutual

/-- The glyphs of a part. -/
def partGlyphs : Part → Run (List Glyph)
  | .text text quoted =>
    return if quoted then .mark :: glyphsOf .quoted text else glyphsOf .written text
  | .parameter name change word quoted => changed name change quoted (glyphsFrom word)
  | .substitution script quoted => do
    return valueGlyphs quoted (← substitute script)
  | .arithmetic expression quoted => do
    let glyphs ← glyphsFrom expression
    return valueGlyphs quoted (← arithmeticValue ((← get).wholeText glyphs))

/-- The glyphs of parts. -/
def glyphsFrom : List Part → Run (List Glyph)
  | [] => return []
  | part :: rest => do
    let glyphs ← partGlyphs part
    return glyphs ++ (← glyphsFrom rest)

end

/-- The home of an account. -/
def home? (shell : Shell) (user : Raw) : Option Raw :=
  if user = "" then shell.value? "HOME"
  else
    (Installation.accounts.find? fun line => line.startsWith (user ++ ":")).bind fun line =>
      ((Text.fields (· == ':') line.toList).map String.ofList)[5]?

/-- Puts the home of an account in the place of a tilde in front of a text, which goes on with what
is not text if `goesOn` is set. -/
def withHome (shell : Shell) (goesOn : Bool) (text : Raw) : Word :=
  match text.toList with
  | '~' :: rest =>
    let user := rest.takeWhile (· != '/')
    let behind := rest.drop user.length
    match goesOn && behind.isEmpty, shell.home? (String.ofList user) with
    | false, some home =>
      if behind.isEmpty then [.text home true]
      else [.text home true, .text (String.ofList behind) false]
    | _, _ => [.text text false]
  | _ => [.text text false]

/-- Parts with neighbouring texts outside of quotes as one. -/
def mergeTexts : Word → Word
  | [] => []
  | part :: rest =>
    match part, mergeTexts rest with
    | .text first false, .text second false :: rest => .text (first ++ second) false :: rest
    | part, rest => part :: rest

/-- Puts homes in the place of a tilde at the front of a word. -/
def withTilde (shell : Shell) (word : Word) : Word :=
  match mergeTexts word with
  | .text text false :: rest => shell.withHome (!rest.isEmpty) text ++ rest
  | word => word

/-- Puts homes in the place of the tildes in the value of an assignment: at its front and behind
colons. -/
def withTildes (shell : Shell) (word : Word) : Word :=
  let ofText (isFirst goesOn : Bool) (text : Raw) : Word :=
    let pieces := (Text.fields (· == ':') text.toList).map String.ofList
    let last := pieces.length - 1
    let parts := pieces.mapIdx fun i piece =>
      if i = 0 ∧ !isFirst then [.text piece false] else shell.withHome (goesOn && i == last) piece
    (parts.intersperse [.text ":" false]).flatten
  let rec go (isFirst : Bool) : Word → Word
    | .text text false :: rest => ofText isFirst (!rest.isEmpty) text ++ go false rest
    | part :: rest => part :: go false rest
    | [] => []
  go true (mergeTexts word)

/-- The text of a word that is not split. -/
def text (word : Word) : Run Raw := do
  let glyphs ← glyphsFrom substitute ((← get).withTilde word)
  return (← get).wholeText glyphs

/-- The text of the value of an assignment. -/
def assignedText (word : Word) : Run Raw := do
  let glyphs ← glyphsFrom substitute ((← get).withTildes word)
  return (← get).wholeText glyphs

/-- The pattern that a word is. -/
def patternOf (word : Word) : Run Pattern := do
  let glyphs ← glyphsFrom substitute ((← get).withTilde word)
  return Pattern.ofLetters (lettersOf (← get).joint glyphs)

/-- The arguments that a word becomes. -/
def arguments (word : Word) : Run (List Raw) := do
  let glyphs ← glyphsFrom substitute ((← get).withTilde word)
  let shell ← get
  let fields := split shell.separators glyphs
  if shell.hasFlag 'f' then return fields.map textOf
  else return fields.flatMap (pathsOf shell.system.files shell.directory)

/-- The arguments that words become. -/
def allArguments : List Word → Run (List Raw)
  | [] => return []
  | word :: rest => do
    let first ← arguments substitute word
    return first ++ (← allArguments rest)

end TenantHost.Rehearsal.Shell
