import TenantHost.Rehearsal.Shell.Source
/-!
# Reading words

A word goes on until a blank or an operator outside of quotes. What stands behind a dollar sign or
between backquotes becomes a part that has a value; such a part may hold words again, or whole
scripts. Those are for the reader `inner`, which gives the token back that it ended at.
-/

namespace TenantHost.Rehearsal.Shell

open Reader

/-- Where the parts of a word stand: in the open, in double quotes, in the brackets of a parameter,
in arithmetic inside of so many brackets, or in a here-document. -/
inductive Context where
  | word
  | double
  | braced (quoted : Bool)
  | arithmetic (depth : Nat)
  | document
  deriving DecidableEq

/-- Whether parts in a context are quoted. -/
def Context.isQuoted : Context → Bool
  | .word => false
  | .braced quoted => quoted
  | _ => true

/-- Whether a character ends a word. -/
def endsWord (c : Char) : Bool :=
  c == ' ' || c == '\t' || c == '\n' || c == ';' || c == '&' || c == '|' || c == '<' || c == '>' ||
    c == '(' || c == ')'

/-- Whether a character never means anything but itself. -/
def isOrdinary (c : Char) : Bool :=
  c.isAlphanum || c == '_' || c == '-' || c == '.' || c == '/' || c == ',' || c == ':' ||
    c == '=' || c == '%' ||
    c.toNat ≥ 128

/-- The part that a backslash and the character behind it are. In quotes a backslash stands for
itself before most characters. -/
def escapedPart (context : Context) : Reader Part := do
  match ← takeRaw with
  | none => return .text "\\" true
  | some c =>
    let isEscaped :=
      !context.isQuoted || c == '\\' || c == '\x60' || c == '$' ||
        (c == '"' && context != .document) ||
        (c == '\x7d' && context == .braced true)
    return .text (String.ofList (if isEscaped then [c] else ['\\', c])) true

/-- What stands in single quotes, behind the first one. -/
def singleQuoted : Reader Part := do
  let text ← takeWhile (· != '\'')
  match ← takeRaw with
  | none => refuse .openQuote
  | some _ => return .text (String.ofList text) true

/-- The script between backquotes, behind the first one. A backslash is dropped where it only keeps
a character from ending the script too early. -/
def backquoted (quoted : Bool) : Nat → Reader (List Char)
  | 0 => refuse .openBackquote
  | size + 1 => do
    match ← take with
    | none => refuse .openBackquote
    | some '\x60' => return []
    | some '\\' =>
      match ← takeRaw with
      | none => refuse .openBackquote
      | some c =>
        let rest ← backquoted quoted size
        return if c = '\\' ∨ c = '\x60' ∨ c = '$' ∨ (c = '"' ∧ quoted) then c :: rest
          else '\\' :: c :: rest
    | some c => return c :: (← backquoted quoted size)

/-- The part between backquotes. -/
def backquotedPart (inner : Reader Command) (quoted : Bool) : Reader Part := do
  let script ← backquoted quoted ((← get).rest.length + 1)
  match inner (Source.ofScript (String.ofList script) (← get).aliases) with
  | .ok (command, _) => return .substitution command quoted
  | .error trouble => throw trouble

/-! ## Parameters -/

/-- The name of a parameter in curly brackets, if there is one; `asLength` tells that a name of
digits may not be followed by more of them. -/
def bracedName : Reader (Option Raw) := do
  match ← peek with
  | none => return none
  | some c =>
    if isNameStart c then return some (String.ofList (← takeWhile isNameChar))
    else if c.isDigit then return some (String.ofList (← takeWhile Char.isDigit))
    else if c = '\x7d' then return none
    else
      drop
      return if isSpecialName c then some (String.singleton c) else none

/-- What is done to a parameter, as the characters behind its name tell. -/
def changeOf (c : Char) (orEmpty : Bool) : Change :=
  match c with
  | '-' => .usual orEmpty
  | '+' => .instead orEmpty
  | '?' => .required orEmpty
  | '=' => .assigned orEmpty
  | _ => .unknown

/-- The change that stands behind the name of a parameter. -/
def bracedChange : Reader Change := do
  match ← take with
  | some '\x7d' => return .none
  | some ':' =>
    match ← take with
    | some '\x7d' => return .unknown
    | some c => return changeOf c true
    | none => return .unknown
  | some '#' => return .cutFront (← skipIf '#')
  | some '%' => return .cutBack (← skipIf '%')
  | some c => return changeOf c false
  | none => return .unknown

/-- The parameter in curly brackets whose length is asked for, if one is: a name and the closing
bracket. -/
def lengthPart? (quoted : Bool) : Reader (Option Part) := do
  let before ← get
  match ← bracedName with
  | some name =>
    if ← skipIf '\x7d' then return some (.parameter name .length [] quoted)
    else
      set before
      return none
  | none =>
    set before
    return none

/-- The part in curly brackets behind a dollar sign; `word` reads the words in it. -/
def bracedPart (word : Context → Reader Word) (quoted : Bool) : Reader Part := do
  let before ← get
  if ← skipIf '#' then
    match ← lengthPart? quoted with
    | some part => return part
    | none => set before
  match ← bracedName with
  | none => return .parameter "" .unknown (← word (.braced quoted)) quoted
  | some name =>
    match ← bracedChange with
    | .none => return .parameter name .none [] quoted
    | .cutFront longest =>
      return .parameter name (.cutFront longest) (← word (.braced false)) quoted
    | .cutBack longest =>
      return .parameter name (.cutBack longest) (← word (.braced false)) quoted
    | change => return .parameter name change (← word (.braced quoted)) quoted

/-- Ends a script in round brackets. -/
def closeBracket : Reader Unit := do
  match (← get).returned with
  | some (.operator ")") => modify fun source => { source with returned := none }
  | some token => refuseToken token (some "\")\"")
  | none => refuseToken .ended (some "\")\"")

/-- The part behind a dollar sign. -/
def dollarPart (inner : Reader Command) (word : Context → Reader Word) (quoted : Bool) :
    Reader Part := do
  match ← peek with
  | none => return .text "$" quoted
  | some c =>
    if c = '(' then
      drop
      if ← skipIf '(' then return .arithmetic (← word (.arithmetic 0)) quoted
      else
        let script ← inner
        closeBracket
        return .substitution script quoted
    else if c = '\x7b' then
      drop
      bracedPart word quoted
    else if isNameStart c then
      return .parameter (String.ofList (← takeWhile isNameChar)) .none [] quoted
    else if isSpecialName c then
      drop
      return .parameter (String.singleton c) .none [] quoted
    else return .text "$" quoted

/-! ## Words -/

/-- The fault of a word that does not end where it should. -/
def openContext (context : Context) : ScriptProblem :=
  match context with
  | .braced false => .missing "\x7d"
  | .arithmetic _ => .missing "))"
  | _ => .openQuote

/-- The parts that a text in double quotes gives; they tell that there were quotes even if there is
nothing in them, unless what is in them is the list of all parameters. -/
def quotedParts (parts : Word) : Word :=
  match parts with
  | [.parameter "@" .none [] true] => parts
  | _ => .text "" true :: parts

/-- The parts of a word up to the end of their context; the first number bounds the length of the
text. -/
def wordParts (inner : Reader Command) : Nat → Context → Reader Word
  | 0, context => refuse (openContext context)
  | size + 1, context => do
    let goOn (part : Part) (context : Context) : Reader Word := do
      return part :: (← wordParts inner size context)
    match ← peek with
    | none =>
      match context with
      | .word => return []
      | .document => return []
      | _ => refuse (openContext context)
    | some c =>
      if isOrdinary c then
        goOn (.text (String.ofList (← takeWhile isOrdinary)) context.isQuoted) context
      else if c = '\\' then
        drop
        goOn (← escapedPart context) context
      else if c = '$' then
        drop
        goOn (← dollarPart inner (wordParts inner size) context.isQuoted) context
      else if c = '\x60' then
        drop
        goOn (← backquotedPart inner context.isQuoted) context
      else
        match context, c with
        | .word, '\'' =>
          drop
          goOn (← singleQuoted) context
        | .braced false, '\'' =>
          drop
          goOn (← singleQuoted) context
        | .word, '"' =>
          drop
          let quoted ← wordParts inner size .double
          return quotedParts quoted ++ (← wordParts inner size context)
        | .braced _, '"' =>
          drop
          let quoted ← wordParts inner size .double
          return quotedParts quoted ++ (← wordParts inner size context)
        | .double, '"' =>
          drop
          return []
        | .braced _, '\x7d' =>
          drop
          return []
        | .arithmetic depth, '(' =>
          drop
          goOn (.text "(" true) (.arithmetic (depth + 1))
        | .arithmetic (depth + 1), ')' =>
          drop
          goOn (.text ")" true) (.arithmetic depth)
        | .arithmetic 0, ')' =>
          drop
          if ← skipIf ')' then return [] else goOn (.text ")" true) context
        | .word, c =>
          if endsWord c then return []
          else
            drop
            goOn (.text (String.singleton c) false) context
        | context, c =>
          drop
          goOn (.text (String.singleton c) context.isQuoted) context

/-- A text with its parameters, arithmetic and substitutions, and no quotes around it. -/
def documentParts (inner : Reader Command) (text : List Char) (line : Nat) : Except Trouble Word :=
  (wordParts inner (text.length + 1) .document (Source.begin text line [])).map Prod.fst

end TenantHost.Rehearsal.Shell
