import TenantHost.Toml.Document
import TenantHost.Toml.Scalar
/-!
# Reading a document

A document is a sequence of statements, one a line: a key with its value, the header of a table, or
the header of one more table of a list. Comments run to the end of the line. The result is the table
of the whole document. Lists and inline tables may stand in each other, but only so deep.

Where a function takes a `size`, that is a bound for the length of the text which is left.
-/

namespace TenantHost.Toml

/-! ## Keys -/

/-- Whether a character may stand in a key without quotes. -/
def isBareKeyChar (c : Char) : Bool :=
  c.isAlphanum || c == '-' || c == '_'

/-- One part of a key. -/
def keyPart (size : Nat) (text : List Char) : Except Fault (String × List Char) :=
  match text with
  | [] => malformed
  | c :: rest =>
    if isBareKeyChar c then
      .ok (String.ofList (text.takeWhile isBareKeyChar), text.dropWhile isBareKeyChar)
    else if c = '"' ∨ c = '\'' then do
      let (part, rest) ← lineText size c rest
      return (String.ofList part, rest)
    else malformed

/-- The parts of a key, joined by points. -/
def keyParts : Nat → List Char → Except Fault (List String × List Char)
  | 0, _ => malformed
  | size + 1, text => do
    let (part, rest) ← keyPart size text
    match skipBlanks rest with
    | '.' :: rest => do
      let (parts, rest) ← keyParts size (skipBlanks rest)
      return (part :: parts, rest)
    | rest => return ([part], rest)

/-- A key: the parts before its last one, and that. -/
def key (size : Nat) (text : List Char) : Except Fault ((List String × String) × List Char) := do
  let (parts, rest) ← keyParts size text
  return ((parts.dropLast, parts.getLast?.getD ""), rest)

/-! ## Values -/

/-- Drops a comment in front. -/
def skipComment (text : List Char) : Except Fault (List Char) :=
  match text with
  | '#' :: rest =>
    if (rest.takeWhile (· ≠ '\n')).any isIllegal then malformed
    else .ok (rest.dropWhile (· ≠ '\n'))
  | _ => .ok text

/-- Drops blanks, line ends and comments in front. -/
def skipInArray : Nat → List Char → Except Fault (List Char)
  | 0, _ => malformed
  | size + 1, text =>
    match skipBlankLines text with
    | '#' :: rest => do skipInArray size (← skipComment ('#' :: rest))
    | rest => .ok rest

/-- What an entry of an inline table does to the entries before it. -/
def addInline (keys : List String) (last : String) (value : Value) (entries : Entries) :
    Except Fault Entries :=
  match descend (addKey last value) (dottedPath 0 keys) entries with
  | some entries => .ok entries
  | none => malformed

/-- A value that begins with a digit or a sign, or is a name. -/
def plainValue (text : List Char) : Except Fault (Value × List Char) :=
  match after? "true".toList text, after? "false".toList text with
  | some rest, _ => .ok (.bool true, rest)
  | _, some rest => .ok (.bool false, rest)
  | _, _ => ((moment? text <|> number? text) <|> (special? text).map Except.ok).getD malformed

/-- How deep a list or an inline table may stand, where `depthOfList` and `depthOfTable` tell how
much deeper what is in one of them stands. -/
def greatestDepth : Nat := 982

/-- How much deeper the items of a list stand. -/
def depthOfList : Nat := 2

/-- How much deeper the values of an inline table stand. -/
def depthOfTable : Nat := 3

mutual

/-- A value that stands so deep; the first number bounds its parts. -/
def value : Nat → Nat → List Char → Except Fault (Value × List Char)
  | 0, _, _ => malformed
  | size + 1, depth, text =>
    match text with
    | '"' :: rest => quotedText size '"' rest
    | '\'' :: rest => quotedText size '\'' rest
    | '[' :: rest => do
      if greatestDepth < depth then .error .nestedTooDeep
      else
        let (found, rest) ← items size (depth + depthOfList) [] (← skipInArray size rest)
        return (.list found, rest)
    | '\x7b' :: rest =>
      if greatestDepth < depth then .error .nestedTooDeep
      else
        match skipBlanks rest with
        | '\x7d' :: rest => .ok (.table [], rest)
        | rest => do
          let (entries, rest) ← inlineEntries size (depth + depthOfTable) [] rest
          return (.table (finishAll entries), rest)
    | text => plainValue text

/-- The items of a list up to its end, behind those that were read already, the last of them
first. -/
def items : Nat → Nat → List Value → List Char → Except Fault (List Value × List Char)
  | 0, _, _, _ => malformed
  | size + 1, depth, found, text =>
    match text with
    | ']' :: rest => .ok (found.reverse, rest)
    | text => do
      let (item, rest) ← value size depth text
      match ← skipInArray size rest with
      | ']' :: rest => return ((item :: found).reverse, rest)
      | ',' :: rest => items size depth (item :: found) (← skipInArray size rest)
      | _ => malformed

/-- The entries of an inline table up to its end, behind those that were read already. -/
def inlineEntries : Nat → Nat → Entries → List Char → Except Fault (Entries × List Char)
  | 0, _, _, _ => malformed
  | size + 1, depth, entries, text => do
    let ((keys, last), rest) ← key size text
    match rest with
    | '=' :: rest => do
      let (found, rest) ← value size depth (skipBlanks rest)
      let entries ← addInline keys last found entries
      match skipBlanks rest with
      | '\x7d' :: rest => return (entries, rest)
      | ',' :: rest => inlineEntries size depth entries (skipBlanks rest)
      | _ => malformed
    | _ => malformed

end

/-! ## Statements -/

/-- A document read in part: its entries, the keys of the section at hand and the section's
number. -/
structure Progress where
  entries : Entries
  header : List String
  sectionNumber : Nat

/-- The progress after a change of the entries, which may not be allowed. -/
def Progress.changed (progress : Progress) (change : Entries → Option Entries) :
    Except Fault Progress :=
  match change progress.entries with
  | some entries => .ok { progress with entries }
  | none => malformed

/-- A key with its value. -/
def keyStatement (size : Nat) (progress : Progress) (text : List Char) :
    Except Fault (Progress × List Char) := do
  let ((keys, last), rest) ← key size text
  match rest with
  | '=' :: rest => do
    let (found, rest) ← value (2 * size) 0 (skipBlanks rest)
    let path := headerPath progress.header ++ dottedPath progress.sectionNumber keys
    return (← progress.changed (descend (addKey last found) path), rest)
  | _ => malformed

/-- The header of a table, or of one more table of a list, behind its brackets. -/
def headerStatement (size : Nat) (progress : Progress) (listed : Bool) (text : List Char) :
    Except Fault (Progress × List Char) := do
  let ((keys, last), rest) ← key size (skipBlanks text)
  let change := if listed then openListed last else openTable last
  let progress ← progress.changed (descend change (headerPath keys))
  match after? (if listed then [']', ']'] else [']']) rest with
  | some rest => return (⟨progress.entries, keys ++ [last], progress.sectionNumber + 1⟩, rest)
  | none => malformed

/-- A statement, if the line has one. -/
def statement (size : Nat) (progress : Progress) (text : List Char) :
    Except Fault (Progress × List Char) :=
  match text with
  | '[' :: '[' :: rest => headerStatement size progress true rest
  | '[' :: rest => headerStatement size progress false rest
  | '#' :: _ => .ok (progress, text)
  | '\n' :: _ => .ok (progress, text)
  | [] => .ok (progress, text)
  | _ => keyStatement size progress text

/-- All statements. -/
def statements : Nat → Progress → List Char → Except Fault Progress
  | 0, _, _ => malformed
  | size + 1, progress, text => do
    let (progress, rest) ← statement (size + 1) progress (skipBlanks text)
    match ← skipComment (skipBlanks rest) with
    | [] => return progress
    | '\n' :: rest => statements size progress rest
    | _ => malformed

/-- Brings `\r\n` to `\n`; a lone `\r` stays. -/
def dropReturns : List Char → List Char
  | [] => []
  | '\r' :: '\n' :: rest => '\n' :: dropReturns rest
  | c :: rest => c :: dropReturns rest

/-- The table that a document is. -/
def parse (text : List Char) : Except Fault Value := do
  let text := dropReturns text
  let progress ← statements (text.length + 1) ⟨[], [], 0⟩ text
  return .table (finishAll progress.entries)

end TenantHost.Toml
