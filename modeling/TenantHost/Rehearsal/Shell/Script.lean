import TenantHost.Rehearsal.Shell.Tokens
/-!
# Reading commands

The grammar of scripts. A script is read one complete command at a time, so that what stands in
front of a mistake is carried out. The reader `inner` is for the scripts inside of others.
-/

namespace TenantHost.Rehearsal.Shell

open Reader

/-- Where a list of commands stands: on a line of its own, inside another command, or where there
may be no command at all. -/
inductive ListKind where
  | line
  | block
  | optional
  deriving DecidableEq

variable (inner : ListKind → Reader Command)

/-- Reads a certain token. -/
def expect (isExpected : Token → Bool) (name : String) : Reader Unit := do
  let found ← commandToken (inner .optional)
  if isExpected found then return () else refuseToken found (some ("\"" ++ name ++ "\""))

/-- Reads a certain keyword. -/
def expectKeyword (name : String) : Reader Unit :=
  expect inner (fun
    | .keyword found => found == name
    | _ => false) name

/-- Reads a certain operator. -/
def expectOperator (symbol : String) : Reader Unit :=
  expect inner (fun
    | .operator found => found == symbol
    | _ => false) symbol

/-- The redirections behind a command; the first number bounds them. -/
def redirectsBehind : Nat → Reader (List Redirect)
  | 0 => return []
  | size + 1 => do
    match ← commandToken (inner .optional) with
    | .redirect descriptor symbol =>
      let first ← redirectFrom (inner .optional) descriptor symbol
      return first :: (← redirectsBehind size)
    | token =>
      giveBack token
      return []

/-- The words up to the next token that is none, and that token. -/
def wordsUpTo : Nat → Reader (List Word × Token)
  | 0 => return ([], .ended)
  | size + 1 => do
    match ← token (inner .optional) with
    | .word word =>
      let (words, behind) ← wordsUpTo size
      return (word :: words, behind)
    | token => return ([], token)

/-- What a simple command consists of, as far as it is read; the last first. -/
structure SimpleParts where
  assignments : List Word
  words : List Word
  redirects : List Redirect

/-- The definition of a function, behind its opening bracket; `command` reads its body. -/
def functionBehind (command : Reader Command) (name : Word) : Reader Command := do
  match ← token (inner .optional) with
  | .operator ")" =>
    match plainText? name with
    | some name =>
      if !isName name || mainBuiltins.contains name then refuse .badFunctionName
      else
        giveBack (← commandTokenBehindLines (inner .optional))
        return .function (← line) name (← command)
    | none => refuse .badFunctionName
  | other => refuseToken other (some "\")\"")

/-- A command of words, assignments and redirections, or the definition of a function. -/
def simpleFrom (command : Reader Command) (start : Nat) : Nat → SimpleParts → Reader Command
  | 0, _ => refuseToken .ended none
  | size + 1, parts => do
    match ← if parts.words.isEmpty then nameToken (inner .optional)
      else token (inner .optional) with
    | .word word =>
      if parts.words.isEmpty && (assignment? word).isSome then
        simpleFrom command start size { parts with assignments := word :: parts.assignments }
      else simpleFrom command start size { parts with words := word :: parts.words }
    | .redirect descriptor symbol =>
      let redirect ← redirectFrom (inner .optional) descriptor symbol
      simpleFrom command start size { parts with redirects := redirect :: parts.redirects }
    | other =>
      match other, parts with
      | .operator "(", ⟨[], [name], []⟩ => functionBehind inner command name
      | _, _ =>
        giveBack other
        return .simple start parts.assignments.reverse parts.words.reverse parts.redirects.reverse

/-- The patterns of a clause, and the token behind them. -/
def patternsFrom : Nat → Token → Reader (List Word × Token)
  | 0, _ => return ([], .ended)
  | size + 1, first => do
    let pattern : Word :=
      match first with
      | .word word => word
      | .keyword name => [.text name false]
      | _ => []
    match ← token (inner .optional) with
    | .operator "|" =>
      let (patterns, behind) ← patternsFrom size (← token (inner .optional))
      return (pattern :: patterns, behind)
    | behind => return ([pattern], behind)

/-- The clauses of a choice by patterns, from a token on. -/
def clausesFrom : Nat → Token → Reader (List (List Word × Command))
  | 0, _ => return []
  | size + 1, first => do
    match first with
    | .keyword "esac" => return []
    | first =>
      let first ←
        match first with
        | .operator "(" => token (inner .optional)
        | other => pure other
      let (patterns, behind) ← patternsFrom inner size first
      match behind with
      | .operator ")" =>
        let body ← inner .optional
        match ← commandTokenBehindLines (inner .optional) with
        | .keyword "esac" => return [(patterns, body)]
        | .operator ";;" =>
          let rest ← clausesFrom size (← commandTokenBehindLines (inner .optional))
          return (patterns, body) :: rest
        | other => refuseToken other (some "\";;\"")
      | other => refuseToken other (some "\")\"")

/-- A choice by patterns, behind its keyword. -/
def casesBehind (start size : Nat) : Reader Command := do
  match ← token (inner .optional) with
  | .word word =>
    match ← commandTokenBehindLines (inner .optional) with
    | .keyword "in" =>
      return .cases start word (← clausesFrom inner size
        (← commandTokenBehindLines (inner .optional)))
    | other => refuseToken other (some "\"in\"")
  | other => refuseToken other (some "word")

/-- The words that a loop goes through: those behind `in`, or all parameters. -/
def eachWords (size : Nat) : Reader (List Word) := do
  match ← commandTokenBehindLines (inner .optional) with
  | .keyword "in" =>
    let (words, behind) ← wordsUpTo inner size
    match behind with
    | .lineEnd => return words
    | .operator ";" => return words
    | other => refuseToken other none
  | other =>
    match other with
    | .operator ";" => pure ()
    | other => giveBack other
    return [[.parameter "@" .none [] true]]

/-- A loop over words, behind its keyword. -/
def eachBehind (start size : Nat) : Reader Command := do
  match ← token (inner .optional) with
  | .word word =>
    match (plainText? word).filter isName with
    | none => refuse .badLoopVariable
    | some name =>
      let words ← eachWords inner size
      match ← commandTokenBehindLines (inner .optional) with
      | .keyword "do" =>
        let body ← inner .block
        expectKeyword inner "done"
        return .each start name words body
      | other => refuseToken other (some "\"do\"")
  | _ => refuse .badLoopVariable

/-- The branches of a choice, behind its keyword. -/
def branchesBehind : Nat → Reader Command
  | 0 => refuseToken .ended none
  | size + 1 => do
    let test ← inner .block
    expectKeyword inner "then"
    let yes ← inner .block
    match ← commandToken (inner .optional) with
    | .keyword "elif" => return .choice test yes (← branchesBehind size)
    | .keyword "else" =>
      let no ← inner .block
      expectKeyword inner "fi"
      return .choice test yes no
    | other =>
      giveBack other
      expectKeyword inner "fi"
      return .choice test yes .nothing

/-- A loop with a test, behind its keyword. -/
def loopBehind (untilSucceeded : Bool) : Reader Command := do
  let test ← inner .block
  expectKeyword inner "do"
  let body ← inner .block
  expectKeyword inner "done"
  return .loop untilSucceeded test body

/-- The commands in brackets of a kind. -/
def blockBefore (close : Reader Unit) : Reader Command := do
  let body ← inner .block
  close
  return body

/-- A command with the redirections behind it. -/
def withRedirects (start size : Nat) (command : Reader Command) : Reader Command := do
  let body ← command
  match ← redirectsBehind inner size, body with
  | [], body => return body
  | redirects, .apart line inside _ => return .apart line inside redirects
  | redirects, body => return .redirected start body redirects

/-- A command. -/
def command : Nat → Reader Command
  | 0 => refuseToken .ended none
  | size + 1 => do
    let start ← line
    let compound := withRedirects inner start size
    match ← commandToken (inner .optional) with
    | .keyword "if" => compound (branchesBehind inner size)
    | .keyword "while" => compound (loopBehind inner false)
    | .keyword "until" => compound (loopBehind inner true)
    | .keyword "for" => compound (eachBehind inner start size)
    | .keyword "case" => compound (casesBehind inner start size)
    | .keyword "\x7b" => compound (blockBefore inner (expectKeyword inner "\x7d"))
    | .operator "(" =>
      compound (do return .apart start (← blockBefore inner (expectOperator inner ")")) [])
    | other =>
      match other with
      | .word _ =>
        giveBack other
        simpleFrom inner (command size) start size ⟨[], [], []⟩
      | .redirect _ _ =>
        giveBack other
        simpleFrom inner (command size) start size ⟨[], [], []⟩
      | other => refuseToken other none

/-- The commands that read from the ones in front of them. -/
def pipedBehind : Nat → Reader (List Command)
  | 0 => return []
  | size + 1 => do
    match ← token (inner .optional) with
    | .operator "|" =>
      giveBack (← commandTokenBehindLines (inner .optional))
      let next ← command inner size
      return next :: (← pipedBehind size)
    | other =>
      giveBack other
      return []

/-- Commands that read from each other, or one command; its status may be negated. -/
def pipeline (size : Nat) : Reader Command := do
  let first ← commandToken (inner .optional)
  let negated :=
    match first with
    | .keyword "!" => true
    | _ => false
  if negated then giveBack (← commandToken (inner .optional)) else giveBack first
  let head ← command inner size
  let rest ← pipedBehind inner size
  let all : Command := if rest.isEmpty then head else .pipeline (head :: rest)
  return if negated then .negated all else all

/-- Pipelines each of which depends on how the one before it ends. -/
def andOrFrom (first : Command) : Nat → Reader Command
  | 0 => return first
  | size + 1 => do
    match ← token (inner .optional) with
    | .operator "&&" =>
      giveBack (← commandTokenBehindLines (inner .optional))
      andOrFrom (.ifSucceeded first (← pipeline inner size)) size
    | .operator "||" =>
      giveBack (← commandTokenBehindLines (inner .optional))
      andOrFrom (.ifFailed first (← pipeline inner size)) size
    | other =>
      giveBack other
      return first

/-- Whether a list of commands may end in front of a token. -/
def Token.endsList : Token → Bool
  | .ended => true
  | .operator symbol => symbol == ")" || symbol == ";;"
  | .keyword name => ["do", "done", "elif", "else", "esac", "fi", "then", "\x7d"].contains name
  | _ => false

/-- One command behind another one. -/
def Command.followedBy (first : Option Command) (second : Command) : Command :=
  match first with
  | none => second
  | some first => .sequence first second

/-- Whether a list of a kind, of which some commands may have been read, ends in front of a
token. -/
def ListKind.endsAt (kind : ListKind) (hasRead : Bool) (token : Token) : Bool :=
  match token with
  | .ended => true
  | token => (kind == .optional || (kind == .block && hasRead)) && token.endsList

/-- The list of commands of a kind, behind those that were read already. -/
def listFrom (kind : ListKind) : Nat → Option Command → Reader Command
  | 0, read => return read.getD .nothing
  | size + 1, read => do
    let first ←
      if kind = .line then commandToken (inner .optional)
      else commandTokenBehindLines (inner .optional)
    match first with
    | .lineEnd => return read.getD .nothing
    | first =>
      giveBack first
      if kind.endsAt read.isSome first then return read.getD .nothing
      else
        let next ← andOrFrom inner (← pipeline inner size) size
        match ← token (inner .optional) with
        | .operator "&" => listFrom kind size (some (Command.followedBy read (.background next)))
        | .operator ";" => listFrom kind size (some (Command.followedBy read next))
        | .lineEnd =>
          if kind = .line then return Command.followedBy read next
          else listFrom kind size (some (Command.followedBy read next))
        | .ended =>
          giveBack .ended
          return Command.followedBy read next
        | other =>
          if kind = .line then refuseToken other none
          else
            giveBack other
            return Command.followedBy read next

/-- How many readers of a command may stand in each other before one of them takes a character. -/
def readerDepth : Nat := 8

/-- A list of commands; the first number bounds how deep lists stand in each other. -/
def commandList : Nat → ListKind → Reader Command
  | 0, _ => refuseToken .ended none
  | depth + 1, kind => do
    let size := (← get).rest.length + readerDepth
    listFrom (commandList depth) kind size none

/-- The next complete command of a script; none at its end. -/
def nextCommand : Reader (Option Command) := do
  let size := (← get).rest.length + 2
  match ← commandToken (commandList size .optional) with
  | .ended => return none
  | first =>
    giveBack first
    return some (← commandList size .line)

end TenantHost.Rehearsal.Shell
