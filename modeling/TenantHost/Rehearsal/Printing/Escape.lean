import TenantHost.Rehearsal.Raw
import TenantHost.Text.Quoted
/-!
# Escapes and echoes

What a backslash does in the texts that the printing programs write, and the plainest of these
programs, `echo`, which writes its arguments with spaces between them.
-/

namespace TenantHost.Rehearsal

/-- The digits of a base at the front of a text, at most so many, and the rest. -/
def takeDigits (base count : Nat) (text : List Char) : List Nat × List Char :=
  match count, text with
  | count + 1, c :: rest =>
    let digit? :=
      if c.isDigit then some (c.toNat - '0'.toNat)
      else if 'a' ≤ c.toLower ∧ c.toLower ≤ 'f' then some (c.toLower.toNat - 'a'.toNat + 10)
      else none
    match digit?.filter (· < base) with
    | some digit =>
      let (digits, rest) := takeDigits base count rest
      (digit :: digits, rest)
    | none => ([], c :: rest)
  | _, text => ([], text)

/-- The number that digits of a base write. -/
def numberOf (base : Nat) (digits : List Nat) : Nat :=
  digits.foldl (fun n digit => base * n + digit) 0

/-- The raw character that digits of a base write; what does not fit is cut off in front. -/
def rawOf (base : Nat) (digits : List Nat) : Char :=
  Char.ofNat (numberOf base digits % 256)

/-- The character of an escape by a letter. -/
def letterEscape? (c : Char) : Option Char :=
  [('a', '\x07'), ('b', '\x08'), ('e', '\x1b'), ('f', '\x0c'), ('n', '\n'), ('r', '\r'),
    ('t', '\t'),
    ('v', '\x0b'), ('\\', '\\')].lookup c

/-- The escapes that a program knows besides those by a letter and those of up to three octal
digits. -/
structure Escapes where
  /-- A zero may stand in front of the three octal digits. -/
  leadingZero : Bool
  /-- Two digits behind an `x` write a byte. -/
  bytes : Bool
  /-- Four digits behind a `u`, or eight behind a `U`, write a character, and a quote stands for
  itself. -/
  characters : Bool
  /-- A `c` ends the output. -/
  ends : Bool

/-- Why an escape cannot be carried out. -/
inductive EscapeProblem where
  | noDigits
  | badCharacter (written : Raw)

/-- What an escape does. -/
inductive Escape where
  | wrote (text rest : List Char)
  | ended
  | broken (problem : EscapeProblem)

/-- Whether a character cannot be written by its number: the plain ones stand for themselves. -/
def isUnwritable (n : Nat) : Bool :=
  (n < 0xA0 && n != 0x24 && n != 0x40 && n != 0x60) || (0xD800 ≤ n && n < 0xE000)

/-- The character of a number, which was written behind a letter with so many digits. -/
def Escape.ofNumber (letter : Char) (size n : Nat) (rest : List Char) : Escape :=
  let written := '\\' :: letter :: Text.hex size n
  if isUnwritable n then .broken (.badCharacter (String.ofList written))
  else if 0x110000 ≤ n then .wrote (written.map Char.toUpper) rest
  else .wrote (Raw.ofText (String.singleton (Char.ofNat n))).toList rest

/-- Reads an escape behind its backslash. An escape that is not known writes itself. -/
def Escapes.read (known : Escapes) (text : List Char) : Escape :=
  match text with
  | [] => .wrote ['\\'] []
  | c :: rest =>
    match letterEscape? c, takeDigits 8 3 (if known.leadingZero && c == '0' then rest
      else text) with
    | some letter, _ => .wrote [letter] rest
    | none, (digits, rest') =>
      if !digits.isEmpty || c == '0' then .wrote [rawOf 8 digits] rest'
      else if c = 'c' ∧ known.ends then .ended
      else if c = 'x' ∧ known.bytes then
        match takeDigits 16 2 rest with
        | ([], _) => if known.characters then .broken .noDigits else .wrote ['\\', c] rest
        | (digits, rest) => .wrote [rawOf 16 digits] rest
      else if (c = 'u' ∨ c = 'U') ∧ known.characters then
        let size := if c = 'u' then 4 else 8
        match takeDigits 16 size rest with
        | (digits, rest) =>
          if digits.length = size then Escape.ofNumber c size (numberOf 16 digits) rest
          else .broken .noDigits
      else if c = '"' ∧ known.characters then .wrote ['"'] rest
      else .wrote ['\\', c] rest

/-- How the output goes on behind a text. -/
inductive Continuation where
  | going
  | ended
  | broken (problem : EscapeProblem)

/-- A text with its escapes carried out, and how the output goes on; the first number bounds its
length. -/
def Escapes.carryOut (known : Escapes) : Nat → List Char → List Char × Continuation
  | 0, _ => ([], .going)
  | _, [] => ([], .going)
  | size + 1, '\\' :: rest =>
    match known.read rest with
    | .ended => ([], .ended)
    | .broken problem => ([], .broken problem)
    | .wrote text rest =>
      let (more, continuation) := known.carryOut size rest
      (text ++ more, continuation)
  | size + 1, c :: rest =>
    let (more, continuation) := known.carryOut size rest
    (c :: more, continuation)

/-! ## Echo -/

/-- How `echo` treats its arguments: whether it ends the line, and the escapes that it carries
out. -/
structure EchoStyle where
  newline : Bool
  escapes : Option Escapes

/-- The style after an argument that is an option, if it is one. -/
def EchoStyle.option? (style : EchoStyle) (argument : Raw) : Option EchoStyle :=
  match argument.toList with
  | '-' :: c :: rest =>
    if (c :: rest).all fun d => d == 'n' || d == 'e' || d == 'E' then
      some ((c :: rest).foldl (fun style d =>
        if d = 'n' then { style with newline := false }
        else
          { style with
            escapes := if d = 'e' then some ⟨true, true, false, true⟩ else none }) style)
    else none
  | _ => none

/-- Reads the options in front of the arguments. -/
def EchoStyle.read (style : EchoStyle) : List Raw → EchoStyle × List Raw
  | [] => (style, [])
  | argument :: rest =>
    match style.option? argument with
    | some style => style.read rest
    | none => (style, argument :: rest)

/-- What `echo` writes in a style. -/
def EchoStyle.output (style : EchoStyle) (arguments : List Raw) : Raw :=
  let text := " ".intercalate arguments
  match style.escapes with
  | none => if style.newline then text ++ "\n" else text
  | some known =>
    let written := text.toList
    match known.carryOut written.length written with
    | (text, .going) => String.ofList (if style.newline then text ++ ['\n'] else text)
    | (text, _) => String.ofList text

/-- What the program `echo` writes. -/
def echoProgram (arguments : List Raw) : Raw :=
  let (style, rest) := EchoStyle.read ⟨true, none⟩ arguments
  style.output rest

/-- What the `echo` of the shell writes: it always carries out escapes and knows one option. -/
def echoBuiltin (arguments : List Raw) : Raw :=
  let known : Escapes := ⟨true, false, false, true⟩
  match arguments with
  | "-n" :: rest => EchoStyle.output ⟨false, some known⟩ rest
  | rest => EchoStyle.output ⟨true, some known⟩ rest

end TenantHost.Rehearsal
