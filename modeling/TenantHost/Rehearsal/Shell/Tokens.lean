import TenantHost.Rehearsal.Shell.Words
/-!
# Tokens and here-documents

A script is cut into words, operators, line ends and the beginnings of redirections. A here-document
stands behind the line that asks for it; it is taken out of the text at once, so that the line goes
on as if it were not there.
-/

namespace TenantHost.Rehearsal.Shell

open Reader

/-- The words that mean something by themselves where a command may begin. -/
def keywords : List String :=
  ["!", "case", "do", "done", "elif", "else", "esac", "fi", "for", "if", "in", "then",
    "until", "while",
    "\x7b", "\x7d"]

/-- A word as a keyword, if it is one. -/
def Token.asKeyword (token : Token) : Token :=
  match token with
  | .word parts =>
    match plainText? parts with
    | some name => if keywords.contains name then .keyword name else token
    | none => token
  | _ => token

/-- A token of one character, or of two if the next one is the same. -/
def doubledToken (c : Char) : Reader Token := do
  drop
  return .operator (String.ofList (if ← skipIf c then [c, c] else [c]))

/-- The beginning of a redirection, from its angle bracket on. -/
def redirectToken (descriptor : Option Nat) : Reader Token := do
  if ← skipIf '>' then
    let symbol ←
      if ← skipIf '>' then pure ">>"
      else if ← skipIf '|' then pure ">|"
      else if ← skipIf '&' then pure ">&"
      else pure ">"
    return .redirect (descriptor.getD 1) symbol
  else
    drop
    let symbol ←
      if ← skipIf '<' then (if ← skipIf '-' then pure "<<-" else pure "<<")
      else if ← skipIf '&' then pure "<&"
      else if ← skipIf '>' then pure "<>"
      else pure "<"
    return .redirect (descriptor.getD 0) symbol

/-- The descriptor in front of an angle bracket, which is a digit that touches it. -/
def descriptor? : Reader (Option Nat) := do
  match (← get).rest with
  | d :: '<' :: _ => return if d.isDigit then some (d.toNat - '0'.toNat) else none
  | d :: '>' :: _ => return if d.isDigit then some (d.toNat - '0'.toNat) else none
  | _ => return none

/-- Notes that a word begins, if that may matter. -/
def noteWord : Reader Unit :=
  modify fun source =>
    if source.aliases.isEmpty then source else { source with wordStart := source.rest.length }

/-- Reads a token; the first number bounds the blanks and comments in front of it. -/
def readToken (inner : Reader Command) : Nat → Reader Token
  | 0 => return .ended
  | size + 1 => do
    match ← peek with
    | none => return .ended
    | some '\n' =>
      drop
      return .lineEnd
    | some '#' =>
      let _ ← takeWhile (· != '\n')
      readToken inner size
    | some c =>
      if c = ' ' ∨ c = '\t' then
        drop
        readToken inner size
      else if c = '&' ∨ c = '|' ∨ c = ';' then doubledToken c
      else if c = '(' ∨ c = ')' then
        drop
        return .operator (String.singleton c)
      else if c = '<' ∨ c = '>' then redirectToken none
      else
        match ← descriptor? with
        | some descriptor =>
          drop
          redirectToken (some descriptor)
        | none =>
          noteWord
          return .word (← wordParts inner (size + 1) .word)

/-- The next token: the one that was given back, if there is one. -/
def token (inner : Reader Command) : Reader Token := do
  let source ← get
  match source.returned with
  | some token =>
    set { source with returned := none }
    return token
  | none => readToken inner (source.rest.length + 1)

/-- What a word stands for if it is another name of a command, unless it stands in what that name
stands for. -/
def aliasOf? (source : Source) (token : Token) : Option (Raw × Raw) :=
  if source.aliases.isEmpty then none
  else
    match token with
    | .word parts =>
      (plainText? parts).bind fun name =>
        if source.replaced.any fun (known, left) =>
          known == name && left < source.wordStart then none
        else (source.aliases.lookup name).map fun value => (name, value)
    | _ => none

/-- How many names may be replaced in front of a command. -/
def aliasLimit : Nat := 1000

/-- A token, or the one that stands in its place if it is another name of a command; the number
bounds the names. -/
def withoutAlias (inner : Reader Command) : Nat → Token → Reader Token
  | 0, found => return found
  | size + 1, found => do
    let source ← get
    match aliasOf? source found.asKeyword with
    | none => return found
    | some (name, value) =>
      set { source with
        rest := value.toList ++ source.rest
        replaced := (name, source.rest.length) :: source.replaced }
      withoutAlias inner size (← token inner)

/-- The next token where the name of a command may stand. -/
def nameToken (inner : Reader Command) : Reader Token := do
  withoutAlias inner aliasLimit (← token inner)

/-- The next token where a command may begin. -/
def commandToken (inner : Reader Command) : Reader Token := do
  return (← nameToken inner).asKeyword

/-- The next token that is not a line end; the first number bounds the line ends in front. -/
def tokenBehindLines (inner : Reader Command) : Nat → Reader Token
  | 0 => return .ended
  | size + 1 => do
    match ← token inner with
    | .lineEnd => tokenBehindLines inner size
    | token => return token

/-- The next token where a command may begin, also behind line ends. -/
def commandTokenBehindLines (inner : Reader Command) : Reader Token := do
  let first ← tokenBehindLines inner ((← get).rest.length + 2)
  return (← withoutAlias inner aliasLimit first).asKeyword

/-! ## Here-documents -/

/-- What stands before the end of a line and behind it; a line end in quotes does not count. -/
def splitLine (quote : Option Char) : List Char → Option (List Char × List Char)
  | [] => none
  | '\\' :: c :: rest =>
    if quote = some '\'' then
      (splitLine quote (c :: rest)).map fun (line, rest) => ('\\' :: line, rest)
    else (splitLine quote rest).map fun (line, rest) => ('\\' :: c :: line, rest)
  | c :: rest =>
    match quote with
    | some q =>
      (splitLine (if c = q then none else quote) rest).map fun (line, rest) => (c :: line, rest)
    | none =>
      if c = '\n' then some ([], rest)
      else
        (splitLine (if c = '\'' ∨ c = '"' then some c else none) rest).map fun (line, rest) =>
          (c :: line, rest)
termination_by text => text.length

/-- The lines up to one that is the delimiter, and the text behind that, with the number of lines
that were passed; the first number bounds the lines. With `strip`, tabs in front of lines are
dropped. -/
def documentLines (strip : Bool) (delimiter : List Char) :
    Nat → List Char → List Char × List Char × Nat
  | 0, text => ([], text, 0)
  | size + 1, text =>
    if text.isEmpty then ([], [], 0)
    else
      let line := text.takeWhile (· != '\n')
      let behind := text.drop line.length
      let line := if strip then line.dropWhile (· == '\t') else line
      if line = delimiter then ([], behind.drop 1, 1)
      else
        let (body, rest, count) := documentLines strip delimiter size (behind.drop 1)
        (line ++ behind.take 1 ++ body, rest, count + 1)

/-- Takes a here-document out of the text behind the line at hand. -/
def takeDocument (strip : Bool) (delimiter : List Char) : Reader (List Char) := do
  let source ← get
  match splitLine none source.rest with
  | none => return []
  | some (line, behind) =>
    let (body, rest, count) := documentLines strip delimiter (behind.length + 1) behind
    set { source with rest := line ++ '\n' :: rest, skipped := source.skipped + count }
    return body

/-- The delimiter of a here-document, and whether some of it stands in quotes. -/
def delimiterText : Nat → Reader (List Char × Bool)
  | 0 => return ([], false)
  | size + 1 => do
    match ← peek with
    | none => return ([], false)
    | some c =>
      if endsWord c then return ([], false)
      else
        drop
        let (front, quoted) ←
          if c = '\\' then pure ((← takeRaw).toList, true)
          else if c = '\'' ∨ c = '"' then do
            let text ← takeWhile (· != c)
            match ← takeRaw with
            | none => refuse .openQuote
            | some _ => pure (text, true)
          else pure ([c], false)
        let (rest, alsoQuoted) ← delimiterText size
        return (front ++ rest, quoted || alsoQuoted)

/-- The here-document that a redirection asks for. In quotes, its delimiter tells that the text has
no parts. -/
def documentRedirect (inner : Reader Command) (descriptor : Nat) (strip : Bool) :
    Reader Redirect := do
  let _ ← takeWhile fun c => c == ' ' || c == '\t'
  match ← peek with
  | none => refuseToken .ended none
  | some c =>
    if endsWord c then refuseToken (← token inner) none
    else
      let line ← line
      let (delimiter, quoted) ← delimiterText ((← get).rest.length + 1)
      let body ← takeDocument strip delimiter
      if quoted then return .document descriptor [.text (String.ofList body) true]
      else
        match documentParts inner body (line + 1) with
        | .ok parts => return .document descriptor parts
        | .error trouble => throw trouble

/-- The redirection that a token begins. -/
def redirectFrom (inner : Reader Command) (descriptor : Nat) (symbol : String) :
    Reader Redirect := do
  let target : Reader Word := do
    match ← token inner with
    | .word word => return word
    | other => refuseToken other none
  match symbol with
  | "<<" => documentRedirect inner descriptor false
  | "<<-" => documentRedirect inner descriptor true
  | "<&" => return .copy descriptor (← target)
  | ">&" => return .copy descriptor (← target)
  | "<" => return .file descriptor .read (← target)
  | ">>" => return .file descriptor .append (← target)
  | ">|" => return .file descriptor .overwrite (← target)
  | "<>" => return .file descriptor .both (← target)
  | _ => return .file descriptor .write (← target)

end TenantHost.Rehearsal.Shell
