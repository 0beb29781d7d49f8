import TenantHost.Rehearsal.Shell.Syntax
/-!
# The text of a script

A script is read from front to back. A backslash at the end of a line joins it with the next one,
and the lines are counted, because messages tell where they come from.
-/

namespace TenantHost.Rehearsal.Shell

/-- A piece of a script between blanks. -/
inductive Token where
  | word (word : Word)
  | keyword (name : String)
  | operator (symbol : String)
  | redirect (descriptor : Nat) (symbol : String)
  | lineEnd
  | ended

/-- How a token is named in messages. -/
def Token.name : Token → String
  | .word _ => "word"
  | .keyword name => "\"" ++ name ++ "\""
  | .operator symbol => "\"" ++ symbol ++ "\""
  | .redirect _ _ => "redirection"
  | .lineEnd => "newline"
  | .ended => "end of file"

/-- Why a script cannot be read. -/
inductive ScriptProblem where
  | openQuote
  | openBackquote
  | missing (bracket : String)
  | badLoopVariable
  | badFunctionName
  | unexpected (token : String) (expected : Option String)
  deriving DecidableEq, Repr

/-- The wording of a problem. -/
def ScriptProblem.wording : ScriptProblem → String
  | .openQuote => "Unterminated quoted string"
  | .openBackquote => "EOF in backquote substitution"
  | .missing bracket => "Missing '" ++ bracket ++ "'"
  | .badLoopVariable => "Bad for loop variable"
  | .badFunctionName => "Bad function name"
  | .unexpected token none => token ++ " unexpected"
  | .unexpected token (some expected) => token ++ " unexpected (expecting " ++ expected ++ ")"

/-- A problem with the line that it was found on. -/
structure Trouble where
  line : Nat
  problem : ScriptProblem

/-- What is left of a script. `skipped` counts the lines that were taken out behind the line at
hand, and `returned` is a token that was read too early. Commands may go by other names, the
`aliases`; those that were replaced have with them how much was left behind what they stand for, and
`wordStart` is how much was left where the last word began. -/
structure Source where
  rest : List Char
  line : Nat
  skipped : Nat
  returned : Option Token
  aliases : List (Raw × Raw)
  replaced : List (Raw × Nat)
  wordStart : Nat

/-- A text that begins on a line. -/
def Source.begin (text : List Char) (line : Nat) (aliases : List (Raw × Raw)) : Source where
  rest := text
  line := line
  skipped := 0
  returned := none
  aliases := aliases
  replaced := []
  wordStart := 0

/-- A script that begins. -/
def Source.ofScript (script : Raw) (aliases : List (Raw × Raw)) : Source :=
  Source.begin script.toList 1 aliases

/-- What reads from the front of a script. -/
abbrev Reader (α : Type) : Type := StateT Source (Except Trouble) α

namespace Reader

/-- The script cannot be read. -/
def refuse {α : Type} (problem : ScriptProblem) : Reader α := fun source =>
  .error ⟨source.line, problem⟩

/-- A token cannot stand where it does. -/
def refuseToken {α : Type} (token : Token) (expected : Option String) : Reader α :=
  refuse (.unexpected token.name expected)

/-- The line at hand. -/
def line : Reader Nat := do
  return (← get).line

/-- A text without the joints of lines in front, and their number. -/
def withoutJoints : List Char → List Char × Nat
  | '\\' :: '\n' :: rest =>
    let (rest, joints) := withoutJoints rest
    (rest, joints + 1)
  | rest => (rest, 0)

/-- Drops the joints of lines in front. -/
def joinLines (source : Source) : Source :=
  let (rest, joints) := withoutJoints source.rest
  if joints = 0 then source
  else { source with rest, line := source.line + joints + source.skipped, skipped := 0 }

/-- The source behind a character. -/
def behind (source : Source) (c : Char) (rest : List Char) : Source :=
  if c = '\n' then { source with rest, line := source.line + 1 + source.skipped, skipped := 0 }
  else { source with rest }

/-- Takes the next character as it stands. -/
def takeRaw : Reader (Option Char) := do
  let source ← get
  match source.rest with
  | [] => return none
  | c :: rest =>
    set (behind source c rest)
    return some c

/-- Looks at the next character. -/
def peek : Reader (Option Char) := do
  let source := joinLines (← get)
  set source
  return source.rest.head?

/-- Takes the next character. -/
def take : Reader (Option Char) := do
  let _ ← peek
  takeRaw

/-- Drops the next character. -/
def drop : Reader Unit := do
  let _ ← take

/-- Drops a character if it is the next one, and tells whether it was. -/
def skipIf (c : Char) : Reader Bool := do
  if (← peek) = some c then
    drop
    return true
  else return false

/-- Takes the characters of a class in front. -/
def takeWhile (isMember : Char → Bool) : Reader (List Char) := do
  let source ← get
  let found := source.rest.takeWhile isMember
  let ends := (found.filter (· == '\n')).length
  let source :=
    if ends = 0 then source
    else { source with line := source.line + ends + source.skipped, skipped := 0 }
  set { source with rest := source.rest.drop found.length }
  return found

/-- Gives a token back. -/
def giveBack (token : Token) : Reader Unit :=
  modify fun source => { source with returned := some token }

end Reader

end TenantHost.Rehearsal.Shell
