import TenantHost.Rehearsal.Program.Basic
import TenantHost.Rehearsal.Regex
/-!
# Editing lines

`sed` carries out a script of commands on each line of its input. A line is held in the pattern
space while the commands go over it, and is written when they are done with it; a second text is
held beside it from line to line.
-/

namespace TenantHost.Rehearsal.Program.Edit

/-! ## Scripts -/

/-- What a command is for: a line by its number, the last one, lines that an expression matches, or
lines at equal distances. An expression that is left out is the one used last. -/
inductive Address where
  | line (number : Nat)
  | last
  | found (regex : Option Regex)
  | step (first every : Nat)

/-- Where a run of lines ends: at an address, or so many lines behind its beginning. -/
inductive Bound where
  | address (address : Address)
  | count (lines : Nat)

/-- The lines that a command is for. -/
structure Selector where
  first : Option Address
  bound : Option Bound
  negated : Bool

/-- A part of what is put in the place of a match. -/
inductive Piece where
  | text (text : Raw)
  | group (number : Nat)

/-- How a replacement is carried out: on which match, on all from there, and whether the line is
written then. -/
structure Replacing where
  beginning : Nat
  isGlobal : Bool
  prints : Bool

/-- What a command does. A block tells which step stands behind it. -/
inductive Action where
  | block (behind : Nat)
  | nothing
  | delete
  | deleteFirst
  | print
  | printFirst
  | quit (status : Nat) (silent : Bool)
  | next
  | nextJoined
  | hold (joined : Bool)
  | fetch (joined : Bool)
  | swap
  | number
  | change (text : Raw)
  | insert (text : Raw)
  | append (text : Raw)
  | replace (regex : Option Regex) (pieces : List Piece) (how : Replacing)
  | exchange (pairs : List (Char × Char))
  | label (name : Raw)
  | branch (wanted : Option Bool) (name : Raw)

/-- A command with the lines that it is for. -/
structure Step where
  selector : Selector
  action : Action

/-! ## Reading scripts -/

/-- What is left of a script, and how much of it was read. -/
structure Script where
  rest : List Char
  count : Nat

/-- What reads from a script; a mistake comes with where it was found. -/
abbrev Reader (α : Type) : Type := StateT Script (Except (Nat × Raw)) α

/-- The script cannot be read. -/
def refuse {α : Type} (text : Raw) : Reader α := fun script =>
  .error (script.count, text)

/-- The next character. -/
def take : Reader (Option Char) := do
  let script ← get
  match script.rest with
  | [] => return none
  | c :: rest =>
    set (Script.mk rest (script.count + 1))
    return some c

/-- The characters of a class in front. -/
def takeAll (isMember : Char → Bool) : Reader (List Char) := do
  let script ← get
  let found := script.rest.takeWhile isMember
  set (Script.mk (script.rest.drop found.length) (script.count + found.length))
  return found

/-- Whether a character is the next one, which is dropped then. -/
def skipIf (c : Char) : Reader Bool := do
  if (← get).rest.head? = some c then
    let _ ← take
    return true
  else return false

/-- The text up to a delimiter. The delimiter means itself behind a backslash, and a line end is
written as the letter `n` there; the number bounds the text. -/
def delimited (delimiter : Char) (complaint : Raw) : Nat → Bool → Reader (List Char)
  | 0, _ => refuse complaint
  | size + 1, isBracketed => do
    match ← take with
    | none => refuse complaint
    | some c =>
      if c = delimiter ∧ !isBracketed then return []
      else if c = '\\' ∧ !isBracketed then
        match ← take with
        | none => refuse complaint
        | some d =>
          let rest ← delimited delimiter complaint size false
          return if d = delimiter then d :: rest else c :: d :: rest
      else
        return c :: (← delimited delimiter complaint size (if c = '[' then true
          else isBracketed && c != ']'))

/-- An expression that was read, or none if it is left out. -/
def regexOf (style : Regex.Style) (text : List Char) : Reader (Option Regex) := do
  if text.isEmpty then return none
  else
    match Regex.ofText style (Raw.toText (String.ofList text)).toList with
    | .ok regex => return some regex
    | .error complaint => refuse complaint

/-- The number in front. -/
def takeNumber : Reader (Option Nat) := do
  let digits ← takeAll Char.isDigit
  return if digits.isEmpty then none else (String.ofList digits).toNat?

/-- An address, if there is one in front. -/
def address? (extended : Bool) : Reader (Option Address) := do
  let regex (delimiter : Char) : Reader (Option Address) := do
    let text ← delimited delimiter "unterminated address regex" ((← get).rest.length + 1) false
    let folded ← skipIf 'I'
    return some (.found (← regexOf ⟨extended, folded⟩ text))
  match (← get).rest with
  | '$' :: _ =>
    let _ ← take
    return some .last
  | '/' :: _ =>
    let _ ← take
    regex '/'
  | '\\' :: delimiter :: _ =>
    let _ ← take
    let _ ← take
    regex delimiter
  | _ =>
    match ← takeNumber with
    | none => return none
    | some first =>
      if ← skipIf '~' then return some (.step first ((← takeNumber).getD 0))
      else return some (.line first)

/-- The lines that a command is for. -/
def selector (extended : Bool) : Reader Selector := do
  let first ← address? extended
  let _ ← takeAll (· == ' ')
  let bound ←
    if first.isSome then
      if ← skipIf ',' then
        let _ ← takeAll (· == ' ')
        if ← skipIf '+' then pure (some (Bound.count ((← takeNumber).getD 0)))
        else
          match ← address? extended with
          | some address => pure (some (.address address))
          | none =>
            let _ ← take
            refuse "unexpected \x60,'"
      else pure none
    else pure none
  let _ ← takeAll (· == ' ')
  let negated ← skipIf '!'
  let _ ← takeAll (· == ' ')
  return ⟨first, bound, negated⟩

/-- The parts of what is put in the place of a match. -/
def pieces : List Char → List Piece
  | [] => []
  | '\\' :: c :: rest =>
    let piece : Piece :=
      if c.isDigit then .group (c.toNat - '0'.toNat)
      else if c = 'n' then .text "\n"
      else if c = 't' then .text "\t"
      else .text (String.singleton c)
    piece :: pieces rest
  | '&' :: rest => .group 0 :: pieces rest
  | c :: rest => .text (String.singleton c) :: pieces rest

/-- The flags of a replacement; the first number bounds them. -/
def replaceFlags : Nat → Replacing → Bool → Reader (Replacing × Bool)
  | 0, how, folded => return (how, folded)
  | size + 1, how, folded => do
    match (← get).rest with
    | [] => return (how, folded)
    | c :: _ =>
      if c = ';' ∨ c = '\n' ∨ c = '\x7d' ∨ c = '#' ∨ c = ' ' then return (how, folded)
      else if c.isDigit then
        match ← takeNumber with
        | some (n + 1) => replaceFlags size { how with beginning := n + 1 } folded
        | _ => refuse "number option to \x60s' command may not be zero"
      else
        let _ ← take
        match c with
        | 'g' => replaceFlags size { how with isGlobal := true } folded
        | 'p' => replaceFlags size { how with prints := true } folded
        | 'i' => replaceFlags size how true
        | 'I' => replaceFlags size how true
        | _ => refuse "unknown option to \x60s'"

/-- A replacement behind its letter. -/
def replacement (extended : Bool) : Reader Action := do
  let complaint := "unterminated \x60s' command"
  match ← take with
  | none => refuse complaint
  | some delimiter =>
    let size := (← get).rest.length + 1
    let pattern ← delimited delimiter complaint size false
    let text ← delimited delimiter complaint size false
    let (how, folded) ← replaceFlags size ⟨1, false, false⟩ false
    let groups := (String.ofList pattern |>.splitOn (if extended then "(" else "\\(")).length - 1
    let parts := pieces text
    for part in parts do
      if let .group number := part then
        if number > groups && !pattern.isEmpty then
          refuse ("invalid reference \\" ++ toString number ++ " on \x60s' command's RHS")
    return .replace (← regexOf ⟨extended, folded⟩ pattern) parts how

/-- An exchange of characters behind its letter. -/
def exchange : Reader Action := do
  let complaint := "unterminated \x60y' command"
  match ← take with
  | none => refuse complaint
  | some delimiter =>
    let size := (← get).rest.length + 1
    let plain (text : List Char) : List Char :=
      (pieces (text.flatMap fun c => if c = '&' then ['\\', '&'] else [c])).flatMap fun
        | .text text => text.toList
        | .group number => ['\\', Char.ofNat ('0'.toNat + number)]
    let decoded (text : List Char) : List Char := (Raw.toText (String.ofList (plain text))).toList
    let source := decoded (← delimited delimiter complaint size false)
    let target := decoded (← delimited delimiter complaint size false)
    if source.length = target.length then return .exchange (source.zip target)
    else refuse "strings for \x60y' command are different lengths"

/-- The text behind a command that writes one: on its line, or on the lines behind it as long as a
backslash joins them. -/
def givenText : Reader Raw := do
  let _ ← takeAll (· == ' ')
  if ← skipIf '\\' then
    let _ ← takeAll (· == ' ')
    let _ ← skipIf '\n'
  if (← get).rest.isEmpty then refuse "expected \\ after \x60a', \x60c' or \x60i'"
  else
    let rec lines : Nat → Reader (List Char)
      | 0 => return []
      | size + 1 => do
        match ← take with
        | none => return []
        | some '\n' => return []
        | some '\\' =>
          match ← take with
          | none => return []
          | some c => return c :: (← lines size)
        | some c => return c :: (← lines size)
    return String.ofList (← lines ((← get).rest.length + 1)) ++ "\n"

/-- A name behind a command. -/
def givenName : Reader Raw := do
  let _ ← takeAll (· == ' ')
  return String.ofList (← takeAll fun c => c != '\n' && c != ';' && c != ' ')

/-- What a letter does, with what stands behind it. -/
def action (extended : Bool) (letter : Char) : Reader Action := do
  match letter with
  | 'd' => return .delete
  | 'D' => return .deleteFirst
  | 'p' => return .print
  | 'P' => return .printFirst
  | 'q' => do
    let _ ← takeAll (· == ' ')
    return .quit ((← takeNumber).getD 0) false
  | 'Q' => do
    let _ ← takeAll (· == ' ')
    return .quit ((← takeNumber).getD 0) true
  | 'n' => return .next
  | 'N' => return .nextJoined
  | 'h' => return .hold false
  | 'H' => return .hold true
  | 'g' => return .fetch false
  | 'G' => return .fetch true
  | 'x' => return .swap
  | '=' => return .number
  | 'a' => return .append (← givenText)
  | 'i' => return .insert (← givenText)
  | 'c' => return .change (← givenText)
  | 's' => replacement extended
  | 'y' => exchange
  | ':' => return .label (← givenName)
  | 'b' => return .branch none (← givenName)
  | 't' => return .branch (some true) (← givenName)
  | 'T' => return .branch (some false) (← givenName)
  | letter => refuse ("unknown command: \x60" ++ String.singleton letter ++ "'")

/-- What may stand between commands. -/
def isBetween (c : Char) : Bool :=
  c == ' ' || c == '\n' || c == ';' || c == '\t'

/-- Reads steps behind those that were read; `openBlocks` are the blocks that are still open. The
number bounds the commands. -/
def stepsFrom (extended : Bool) : Nat → List Nat → Array Step → Reader (Array Step)
  | 0, _, steps => return steps
  | size + 1, openBlocks, steps => do
    let _ ← takeAll isBetween
    if (← get).rest.isEmpty then
      if openBlocks.isEmpty then return steps else throw (0, "unmatched \x60\x7b'")
    else
      let selector ← selector extended
      match ← take with
      | none => refuse "missing command"
      | some '#' =>
        let _ ← takeAll (· != '\n')
        stepsFrom extended size openBlocks steps
      | some '\x7b' =>
        stepsFrom extended size (steps.size :: openBlocks) (steps.push ⟨selector, .nothing⟩)
      | some '\x7d' =>
        match openBlocks with
        | [] => refuse "unexpected \x60\x7d'"
        | first :: openBlocks =>
          let behind := steps.size
          stepsFrom extended size openBlocks (steps.modify first fun step =>
            { step with action := .block behind })
      | some letter =>
        let action ← action extended letter
        let isText : Bool :=
          match action with
          | .append _ => true
          | .insert _ => true
          | .change _ => true
          | _ => false
        if !isText then
          let _ ← takeAll (· == ' ')
          match (← get).rest with
          | [] => pure ()
          | c :: _ =>
            if !(isBetween c || c == '\x7d' || c == '#') then
              let _ ← take
              refuse "extra characters after command"
        stepsFrom extended size openBlocks (steps.push ⟨selector, action⟩)

/-- Reads a script. -/
def readScript (extended : Bool) (script : Raw) : Except (Nat × Raw) (Array Step) :=
  (stepsFrom extended (script.length + 1) [] #[] ⟨script.toList, 0⟩).map Prod.fst

/-! ## Carrying out scripts -/

/-- What is known while lines are edited: the pattern space, the text held beside it, the lines to
come, what is to be written behind the line, where runs of lines end that have begun, and the
expression used last. The output is kept from the last piece to the first. -/
structure Editing where
  pattern : Raw
  held : Raw
  line : Nat
  rest : List Raw
  queued : Raw
  ends : List (Nat × Option Nat)
  replaced : Bool
  recent : Option Regex
  output : List Raw
  silent : Bool

/-- What is done while lines are edited. -/
abbrev Edits (α : Type) : Type := StateM Editing α

/-- Writes a text. -/
def write (text : Raw) : Edits Unit :=
  modify fun editing => { editing with output := text :: editing.output }

/-- The characters of a raw text as an expression sees them. -/
def charsOf (text : Raw) : Array Char :=
  (Raw.toText text).toList.toArray

/-- An expression, or the one used last. -/
def known (regex : Option Regex) : Edits (Option Regex) := do
  match regex with
  | some regex =>
    modify fun editing => { editing with recent := some regex }
    return some regex
  | none => return (← get).recent

/-- Whether the line at hand is at an address. -/
def isAt (address : Address) : Edits Bool := do
  let editing ← get
  match address with
  | .line number => return editing.line == number
  | .last => return editing.rest.isEmpty
  | .step first every =>
    return if every = 0 then editing.line == first else editing.line ≥ first &&
      (editing.line - first) % every == 0
  | .found regex =>
    match ← known regex with
    | some regex => return (regex.search (charsOf editing.pattern) 0).isSome
    | none => return false

/-- Whether the run of lines of a step, which has begun, goes on behind the line at hand. -/
def goesOn (bound : Bound) (stop : Option Nat) : Edits Bool := do
  let line := (← get).line
  match bound, stop with
  | .address (.line number), _ => return line < number
  | .count _, some stop => return line < stop
  | .address address, _ => return !(← isAt address)
  | _, none => return false

/-- Whether the line at hand lies in the lines of a step. -/
def isSelected (index : Nat) (selector : Selector) : Edits Bool := do
  match selector.first, selector.bound with
  | none, _ => return !selector.negated
  | some first, none => return (← isAt first) != selector.negated
  | some first, some bound =>
    let forget : Edits Unit := modify fun editing =>
      { editing with ends := editing.ends.filter (·.1 ≠ index) }
    let line := (← get).line
    match (← get).ends.lookup index with
    | some stop =>
      let isPast : Bool :=
        match bound with
        | .address (.line number) => number < line
        | _ => false
      if isPast then
        forget
        let isFirst ← isAt first
        return isFirst != selector.negated
      else
        if !(← goesOn bound stop) then forget
        return !selector.negated
    | none =>
      if ← isAt first then
        let stop : Option Nat :=
          match bound with
          | .count lines => some (line + lines)
          | _ => none
        let isOpen : Bool :=
          match bound with
          | .address (.line number) => line < number
          | .count lines => 0 < lines
          | _ => true
        if isOpen then modify fun editing => { editing with ends := (index, stop) :: editing.ends }
        return !selector.negated
      else return selector.negated

/-- What is put in the place of a match. -/
def filled (text : Array Char) (start stop : Nat) (groups : Regex.Groups) : List Piece → Raw
  | [] => ""
  | .text piece :: rest => piece ++ filled text start stop groups rest
  | .group number :: rest =>
    let (head, tail) := if number = 0 then (start, stop) else (groups.lookup number).getD (0, 0)
    Raw.ofText (String.ofList (text.extract head tail).toList) ++ filled text start stop groups rest

/-- A text with matches replaced from a place on, and how many were; `count` is the number of the
next match. The first number bounds the matches. -/
def replacedFrom (regex : Regex) (pieces : List Piece) (how : Replacing) (text : Array Char) :
    Nat → Nat → Nat → Option Nat → Raw × Nat
  | 0, place, _, _ => (Raw.ofText (String.ofList (text.extract place text.size).toList), 0)
  | size + 1, place, count, lastStop =>
    let cut (start stop : Nat) : Raw := Raw.ofText (String.ofList (text.extract start stop).toList)
    match regex.search text place with
    | none => (cut place text.size, 0)
    | some (start, stop, groups) =>
      if start = stop ∧ lastStop = some start then
        if start < text.size then
          let (rest, n) := replacedFrom regex pieces how text size (start + 1) count none
          (cut place (start + 1) ++ rest, n)
        else (cut place text.size, 0)
      else if count < how.beginning then
        let next := if stop = start then start + 1 else stop
        if next > text.size then (cut place text.size, 0)
        else
          let (rest, n) := replacedFrom regex pieces how text size next (count + 1) (some stop)
          (cut place next ++ rest, n)
      else
        let new := cut place start ++ filled text start stop groups pieces
        if !how.isGlobal then (new ++ cut stop text.size, 1)
        else if start = stop then
          if start < text.size then
            let (rest, n) := replacedFrom regex pieces how text size (start + 1) (count + 1) none
            (new ++ cut start (start + 1) ++ rest, n + 1)
          else (new, 1)
        else
          let (rest, n) := replacedFrom regex pieces how text size stop (count + 1) (some stop)
          (new ++ rest, n + 1)

/-- How the commands leave a line: it is written, it is dropped, it is gone over again without
another one, or it is the last one. -/
inductive Finish where
  | written
  | dropped
  | again
  | quit (status : Nat) (silent : Bool)

/-- The part of a text up to its first line end. -/
def firstLine (text : Raw) : Raw :=
  (text.takeWhile (· != '\n')).toString

/-- Writes what waits for the end of a line. -/
def flush : Edits Unit := do
  let queued := (← get).queued
  if queued ≠ "" then
    write queued
    modify fun editing => { editing with queued := "" }

/-- Takes the next line, if there is one. -/
def nextLine : Edits (Option Raw) := do
  match (← get).rest with
  | [] => return none
  | line :: rest =>
    modify fun editing => { editing with rest, line := editing.line + 1 }
    return some line

/-- Sets the pattern space. -/
def setPattern (pattern : Raw) : Edits Unit :=
  modify fun editing => { editing with pattern }

/-- The step of a label. -/
def labelled (steps : Array Step) (name : Raw) : Nat :=
  (steps.findIdx? fun step =>
    match step.action with
    | .label known => known == name
    | _ => false).getD steps.size

/-- Carries out steps from one on; the first number bounds them. -/
def stepsOn (steps : Array Step) : Nat → Nat → Edits Finish
  | 0, _ => return .quit 1 true
  | size + 1, index => do
    match steps[index]? with
    | none => return .written
    | some step =>
      if !(← isSelected index step.selector) then
        match step.action with
        | .block behind => stepsOn steps size behind
        | _ => stepsOn steps size (index + 1)
      else
        let editing ← get
        let goOn : Edits Finish := stepsOn steps size (index + 1)
        match step.action with
        | .block _ => goOn
        | .nothing => goOn
        | .label _ => goOn
        | .delete => return .dropped
        | .deleteFirst =>
          if !editing.pattern.toList.contains '\n' then return .dropped
          else
            setPattern (editing.pattern.drop ((firstLine editing.pattern).length + 1)).toString
            return .again
        | .print =>
          write (editing.pattern ++ "\n")
          goOn
        | .printFirst =>
          write (firstLine editing.pattern ++ "\n")
          goOn
        | .quit status silent => return .quit status silent
        | .next =>
          if editing.rest.isEmpty then return .quit 0 editing.silent
          else
            if !editing.silent then write (editing.pattern ++ "\n")
            flush
            setPattern ((← nextLine).getD "")
            goOn
        | .nextJoined =>
          if editing.rest.isEmpty then return .quit 0 editing.silent
          else
            flush
            let line := (← nextLine).getD ""
            setPattern (editing.pattern ++ "\n" ++ line)
            goOn
        | .hold joined =>
          set { editing with held := if joined then editing.held ++ "\n" ++ editing.pattern
            else editing.pattern }
          goOn
        | .fetch joined =>
          setPattern (if joined then editing.pattern ++ "\n" ++ editing.held else editing.held)
          goOn
        | .swap =>
          set { editing with held := editing.pattern, pattern := editing.held }
          goOn
        | .number =>
          write (toString editing.line ++ "\n")
          goOn
        | .change text =>
          if step.selector.bound.isNone || step.selector.negated ||
            (editing.ends.lookup index).isNone then write text
          return .dropped
        | .insert text =>
          write text
          goOn
        | .append text =>
          set { editing with queued := editing.queued ++ text }
          goOn
        | .replace regex pieces how =>
          match ← known regex with
          | none => goOn
          | some regex =>
            let text := charsOf editing.pattern
            let (pattern, count) := replacedFrom regex pieces how text (text.size + 2) 0 1 none
            if count > 0 then
              modify fun editing => { editing with pattern, replaced := true }
              if how.prints then write (pattern ++ "\n")
            goOn
        | .exchange pairs =>
          setPattern (Raw.ofText ((Raw.toText editing.pattern).map
            fun c => (pairs.lookup c).getD c))
          goOn
        | .branch wanted name =>
          let jumps : Bool := wanted.all (· == editing.replaced)
          if wanted.isSome then set { editing with replaced := false }
          if jumps then stepsOn steps size (if name = "" then steps.size else labelled steps name)
          else goOn

/-- How many steps may be carried out on a line. -/
def stepLimit : Nat := 1000000

/-- Goes over the lines; gives the status. The first number bounds the turns. -/
def turns (steps : Array Step) : Nat → Bool → Edits Nat
  | 0, _ => return 0
  | size + 1, isFresh => do
    let line? ← if isFresh then nextLine else pure (some (← get).pattern)
    match line? with
    | none => return 0
    | some line =>
      modify fun editing => { editing with pattern := line, replaced := false }
      let finish ← stepsOn steps stepLimit 0
      let isSilent := (← get).silent
      match finish with
      | .written =>
        if !isSilent then write ((← get).pattern ++ "\n")
        flush
        turns steps size true
      | .dropped =>
        flush
        turns steps size true
      | .again =>
        flush
        turns steps size false
      | .quit status silent =>
        if !isSilent && !silent then write ((← get).pattern ++ "\n")
        if !silent then flush
        return status

/-- The text that a script makes of a text, and the status. A line that was not ended is not ended
then. -/
def edited (steps : Array Step) (silent : Bool) (text : Raw) : Raw × Nat :=
  let lines := Raw.lines text
  let (status, after) := (turns steps (2 * text.length + 2) true).run
    ⟨"", "", 0, lines, "", [], false, none, [], silent⟩
  let output := String.join after.output.reverse
  let isOpen := text ≠ "" && !text.endsWith "\n" && after.rest.isEmpty && output.endsWith "\n"
  (if isOpen then (output.dropEnd 1).toString else output, status)

/-! ## The program -/

/-- Edits lines by a script. -/
def sed : Job Nat :=
  Job.withOptions "nErsuzi" "ef" [("quiet", 'n'), ("silent", 'n'), ("regexp-extended", 'E'),
    ("expression", 'e')] 1
    fun options => do
      let given := (options.chosen.filter (·.1 == 'e')).map Prod.snd
      match given, options.others with
      | [], [] =>
        Job.writeTo 2
          "Usage: sed [OPTION]... \x7bscript-only-if-no-other-script\x7d [input-file]...\n"
        return 1
      | given, others =>
        let (script, paths) :=
          if given.isEmpty then (others.head?.getD "", others.drop 1)
          else ("\n".intercalate given, others)
        match readScript (options.has 'E' || options.has 'r') script with
        | .error (place, complaint) =>
          Job.fail ("-e expression #1, char " ++ toString place ++ ": " ++ complaint) 1
        | .ok steps =>
          let missing := steps.toList.findSome? fun step =>
            match step.action with
            | .branch _ name =>
              if name ≠ "" ∧ labelled steps name = steps.size then some name else none
            | _ => none
          if let some name := missing then
            return ← Job.fail ("can't find label for jump to \x60" ++ name ++ "'") 4
          let mut texts : List Raw := []
          let mut status := 0
          for path in (if paths.isEmpty then ["-"] else paths) do
            match ← Job.fileText path with
            | .ok text =>
              if options.has 'i' then
                if let .ok place := ← Job.locate true path then
                  Job.mapFiles fun files => files.write place
                    (edited steps (options.has 'n') text).1
              else
                let before := texts.map fun text => if text = "" || text.endsWith "\n" then
                    text else text ++ "\n"
                texts := text :: before
            | .error .isDirectory =>
              status := ← Job.fail ("couldn't edit " ++ path ++ ": not a regular file") 2
            | .error problem =>
              status := ← Job.fail ("can't read " ++ path ++ ": " ++ problem.wording) 2
          if options.has 'i' then return status
          else
            let (output, quit) := edited steps (options.has 'n') (String.join texts.reverse)
            Job.put output
            return if quit = 0 then status else quit

end TenantHost.Rehearsal.Program.Edit
