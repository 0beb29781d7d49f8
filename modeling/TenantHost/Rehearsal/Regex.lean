import TenantHost.Rehearsal.Printing.Escape
import TenantHost.Rehearsal.Shell.Pattern
/-!
# Regular expressions

The expressions that programs search texts by, in the basic and in the extended way of writing them.
Of all matches that begin first, the longest one counts.
-/

namespace TenantHost.Rehearsal

/-- A place that an expression asks for without taking a character. -/
inductive Edge where
  | start
  | finish
  | wordStart
  | wordEnd
  | word
  | inner
  deriving DecidableEq

/-- An expression. -/
inductive Regex where
  | empty
  | one (isMember : Char → Bool)
  | edge (edge : Edge)
  | join (first second : Regex)
  | either (first second : Regex)
  | often (inside : Regex) (least : Nat) (most : Option Nat)
  | group (number : Nat) (inside : Regex)
  | again (number : Nat)

namespace Regex

/-! ## Matching -/

/-- What the groups of a match stand for: where they begin and end. -/
abbrev Groups : Type := List (Nat × Nat × Nat)

/-- Where a match may end, with its groups. -/
abbrev Ends : Type := List (Nat × Groups)

/-- Whether a character belongs to a word. -/
def isWordChar (c : Char) : Bool :=
  c.isAlphanum || c == '_'

/-- Whether an edge lies at a place of a text. -/
def edgeHolds (wanted : Edge) (text : Array Char) (place : Nat) : Bool :=
  let before := place > 0 && (text[place - 1]?).any isWordChar
  let behind := (text[place]?).any isWordChar
  match wanted with
  | .start => place == 0
  | .finish => place == text.size
  | .wordStart => !before && behind
  | .wordEnd => before && !behind
  | .word => before != behind
  | .inner => before == behind

/-- Ends that differ in their places, the first of each. -/
def distinct (ends : Ends) : Ends :=
  ends.foldl (fun kept found => if kept.any (·.1 == found.1) then kept else kept ++ [found]) []

/-- The ends that are reached by so many steps. -/
def exactly (step : Nat × Groups → Ends) : Nat → Ends → Ends
  | 0, ends => ends
  | count + 1, ends => exactly step count (distinct (ends.flatMap step))

/-- The ends that are reached by at most so many steps; `known` are those that were reached
already. -/
def upTo (step : Nat × Groups → Ends) : Nat → Ends → Ends → Ends
  | 0, known, _ => known
  | count + 1, known, fresh =>
    let next := (distinct (fresh.flatMap step)).filter fun found => !known.any (·.1 == found.1)
    if next.isEmpty then known else upTo step count (known ++ next) next

/-- The ends of matches that begin at a place. -/
def ends (text : Array Char) : Regex → Nat × Groups → Ends
  | .empty, found => [found]
  | .one isMember, (place, groups) =>
    if (text[place]?).any isMember then [(place + 1, groups)] else []
  | .edge wanted, (place, groups) => if edgeHolds wanted text place then [(place, groups)] else []
  | .join first second, found => distinct ((first.ends text found).flatMap (second.ends text))
  | .either first second, found => distinct (first.ends text found ++ second.ends text found)
  | .often inside least most, found =>
    let begun := exactly (inside.ends text) least [found]
    let bound := (most.map (· - least)).getD (text.size + 1)
    (upTo (inside.ends text) bound begun begun).mergeSort fun a b => b.1 ≤ a.1
  | .group number inside, (place, groups) =>
    (inside.ends text (place, groups)).map fun (stop, groups) =>
      (stop, (number, place, stop) :: groups)
  | .again number, (place, groups) =>
    match groups.lookup number with
    | some (start, stop) =>
      let piece := text.extract start stop
      if text.extract place (place + piece.size) = piece then [(place + piece.size, groups)] else []
    | none => []

/-- The longest match that begins at a place. -/
def matchAt (regex : Regex) (text : Array Char) (place : Nat) : Option (Nat × Groups) :=
  (regex.ends text (place, [])).foldl (fun best found =>
    match best with
    | some known => if known.1 < found.1 then some found else best
    | none => some found) none

/-- The first match from a place on: where it begins and ends, and its groups. -/
def search (regex : Regex) (text : Array Char) (place : Nat) : Option (Nat × Nat × Groups) :=
  ((List.range (text.size + 1 - place)).map (· + place)).findSome? fun start =>
    (regex.matchAt text start).map fun (stop, groups) => (start, stop, groups)

/-! ## Reading expressions -/

/-- How expressions are written: in the extended way or not, and whether the case of letters
counts. -/
structure Style where
  extended : Bool
  folded : Bool

/-- A character as an expression. -/
def ofChar (style : Style) (c : Char) : Regex :=
  .one fun d => if style.folded then d.toLower == c.toLower else d == c

/-- The members of brackets behind the opening one, and the rest. -/
def brackets (style : Style) (text : List Char) : Except Raw (Regex × List Char) :=
  let (negated, text) :=
    match text with
    | '^' :: rest => (true, rest)
    | rest => (false, rest)
  match Shell.takeMembers (text.length + 1) true (text.map fun c => (c, false)) with
  | some (isMember, rest) =>
    let found (c : Char) : Bool :=
      isMember c || (style.folded && (isMember c.toLower || isMember c.toUpper))
    .ok (.one fun c => found c != negated, rest.map Prod.fst)
  | none => .error "Unmatched [, [^, [:, [., or [="

/-- An expression by a letter behind a backslash. -/
def ofEscape (style : Style) (c : Char) : Regex :=
  match c with
  | 'w' => .one isWordChar
  | 'W' => .one fun c => !isWordChar c
  | 's' => .one fun c => c == ' ' || ('\t' ≤ c && c ≤ '\r')
  | 'S' => .one fun c => !(c == ' ' || ('\t' ≤ c && c ≤ '\r'))
  | 'b' => .edge .word
  | 'B' => .edge .inner
  | '<' => .edge .wordStart
  | '>' => .edge .wordEnd
  | 'n' => ofChar style '\n'
  | 't' => ofChar style '\t'
  | c =>
    if c.isDigit && c != '0' then .again (c.toNat - '0'.toNat) else ofChar style c

/-- The bounds of a repetition behind an opening brace, and the rest. -/
def bounds (style : Style) (text : List Char) : Option (Nat × Option Nat × List Char) :=
  let (least, rest) := takeDigits 10 text.length text
  let close (rest : List Char) : Option (List Char) :=
    match style.extended, rest with
    | true, '\x7d' :: rest => some rest
    | false, '\\' :: '\x7d' :: rest => some rest
    | _, _ => none
  match rest with
  | ',' :: rest =>
    let (most, rest) := takeDigits 10 rest.length rest
    (close rest).map fun rest =>
      (numberOf 10 least, if most.isEmpty then none else some (numberOf 10 most), rest)
  | rest =>
    if least.isEmpty then none
    else (close rest).map fun rest => (numberOf 10 least, some (numberOf 10 least), rest)

/-- The repetitions behind an expression; the first number bounds them. -/
def repeated (style : Style) : Nat → Regex → List Char → Regex × List Char
  | 0, regex, text => (regex, text)
  | size + 1, regex, text =>
    let braced (rest : List Char) : Regex × List Char :=
      match bounds style rest with
      | some (least, most, rest) => repeated style size (.often regex least most) rest
      | none => (regex, text)
    match style.extended, text with
    | _, '*' :: rest => repeated style size (.often regex 0 none) rest
    | true, '+' :: rest => repeated style size (.often regex 1 none) rest
    | true, '?' :: rest => repeated style size (.often regex 0 (some 1)) rest
    | true, '\x7b' :: rest => braced rest
    | false, '\\' :: '+' :: rest => repeated style size (.often regex 1 none) rest
    | false, '\\' :: '?' :: rest => repeated style size (.often regex 0 (some 1)) rest
    | false, '\\' :: '\x7b' :: rest => braced rest
    | _, _ => (regex, text)

/-- What stands at the front of a text: an expression, or the end of a branch or a group. -/
inductive Front where
  | stop
  | branch (rest : List Char)
  | close (rest : List Char)
  | opening (rest : List Char)
  | other (c : Char) (rest : List Char)
  | escape (c : Char) (rest : List Char)

/-- What stands at the front of a text. -/
def front (style : Style) (text : List Char) : Front :=
  match style.extended, text with
  | _, [] => .stop
  | true, '|' :: rest => .branch rest
  | true, ')' :: rest => .close rest
  | true, '(' :: rest => .opening rest
  | false, '\\' :: '|' :: rest => .branch rest
  | false, '\\' :: ')' :: rest => .close rest
  | false, '\\' :: '(' :: rest => .opening rest
  | _, '\\' :: c :: rest => .escape c rest
  | _, c :: rest => .other c rest

/-- Whether a branch ends in front of a text. -/
def endsBranch (style : Style) (text : List Char) : Bool :=
  match front style text with
  | .stop => true
  | .branch _ => true
  | .close _ => true
  | _ => false

/-- An expression with the number of the groups so far, and the rest of the text. -/
abbrev Read : Type := Except Raw (Regex × Nat × List Char)

/-- Reads an expression: alternatives of sequences. The first number bounds the length of the text;
`isStart` tells that a sequence begins, `depth` how many groups are open. -/
def readFrom (style : Style) : Nat → Bool → Nat → Nat → Regex → List Char → Read
  | 0, _, _, groups, read, text => .ok (read, groups, text)
  | size + 1, isStart, depth, groups, read, text =>
    let goOn (next : Regex) (groups : Nat) (rest : List Char) : Read :=
      let (next, rest) := repeated style rest.length next rest
      readFrom style size false depth groups (.join read next) rest
    match front style text with
    | .stop => if depth > 0 then .error "Unmatched ( or \\(" else .ok (read, groups, [])
    | .branch rest => do
      let (other, groups, rest) ← readFrom style size true depth groups .empty rest
      .ok (.either read other, groups, rest)
    | .close rest =>
      if depth > 0 then .ok (read, groups, text)
      else if style.extended then goOn (ofChar style ')') groups rest
      else .error "Unmatched ) or \\)"
    | .opening rest => do
      let number := groups + 1
      let (inside, groups, rest) ← readFrom style size true (depth + 1) number .empty rest
      match front style rest with
      | .close rest => goOn (.group number inside) groups rest
      | _ => .error "Unmatched ( or \\("
    | .escape c rest => goOn (ofEscape style c) groups rest
    | .other c rest =>
      match c with
      | '[' => do
        let (inside, rest) ← brackets style rest
        goOn inside groups rest
      | '.' => goOn (.one fun _ => true) groups rest
      | '^' =>
        if style.extended || isStart then
          readFrom style size true depth groups (.join read (.edge .start)) rest
        else goOn (ofChar style '^') groups rest
      | '$' =>
        if style.extended || endsBranch style rest then goOn (.edge .finish) groups rest
        else goOn (ofChar style '$') groups rest
      | '\\' => .error "Trailing backslash"
      | '*' =>
        if isStart && style.extended then readFrom style size true depth groups read rest
        else goOn (ofChar style '*') groups rest
      | c => goOn (ofChar style c) groups rest

/-- Reads an expression. -/
def ofText (style : Style) (text : List Char) : Except Raw Regex := do
  let (regex, _, _) ← readFrom style (2 * text.length + 2) true 0 0 .empty text
  return regex

/-- An expression that means its characters. -/
def literal (style : Style) (text : List Char) : Regex :=
  text.foldl (fun regex c => .join regex (ofChar style c)) .empty

end Regex

end TenantHost.Rehearsal
