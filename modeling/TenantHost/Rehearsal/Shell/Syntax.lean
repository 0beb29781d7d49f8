import TenantHost.Rehearsal.Raw
/-!
# The syntax of scripts

What a script says once it is read: commands made of words, and words made of parts. A part keeps
whether it stood in quotes, since quotes keep a text from being split or taken for a pattern.
-/

namespace TenantHost.Rehearsal.Shell

/-- What is made of the value of a parameter with the help of a word. Where `orEmpty` is set, an
empty value is as good as none. -/
inductive Change where
  | none
  | length
  | usual (orEmpty : Bool)
  | assigned (orEmpty : Bool)
  | required (orEmpty : Bool)
  | instead (orEmpty : Bool)
  | cutFront (longest : Bool)
  | cutBack (longest : Bool)
  | unknown
  deriving DecidableEq, Repr

/-- How a file is opened by a redirection. -/
inductive Opening where
  | read
  | write
  | overwrite
  | append
  | both
  deriving DecidableEq, Repr

mutual

/-- A part of a word. -/
inductive Part where
  | text (text : Raw) (quoted : Bool)
  | parameter (name : Raw) (change : Change) (word : List Part) (quoted : Bool)
  | substitution (script : Command) (quoted : Bool)
  | arithmetic (expression : List Part) (quoted : Bool)

/-- A redirection of a descriptor: to a file, to what another descriptor leads to, or from a
text. -/
inductive Redirect where
  | file (descriptor : Nat) (opening : Opening) (target : List Part)
  | copy (descriptor : Nat) (target : List Part)
  | document (descriptor : Nat) (body : List Part)

/-- A command. The line is the one that it began on. -/
inductive Command where
  | nothing
  | simple (line : Nat) (assignments words : List (List Part)) (redirects : List Redirect)
  | sequence (first second : Command)
  | ifSucceeded (first second : Command)
  | ifFailed (first second : Command)
  | negated (command : Command)
  | pipeline (commands : List Command)
  | background (command : Command)
  | choice (test yes no : Command)
  | loop (untilSucceeded : Bool) (test body : Command)
  | each (line : Nat) (name : Raw) (words : List (List Part)) (body : Command)
  | cases (line : Nat) (word : List Part) (clauses : List (List (List Part) × Command))
  | redirected (line : Nat) (body : Command) (redirects : List Redirect)
  | apart (line : Nat) (body : Command) (redirects : List Redirect)
  | function (line : Nat) (name : Raw) (body : Command)

end

/-- A word is what becomes an argument, or several ones. -/
abbrev Word : Type := List Part

/-! ## Names -/

/-- The special builtins: an error in one of them ends the shell, assignments in front of them last,
and no function can have their names. -/
def mainBuiltins : List Raw :=
  [".", ":", "break", "continue", "eval", "exec", "exit", "export", "local", "readonly", "return",
    "set", "shift",
    "times", "trap", "unset"]

/-- Whether a character may begin the name of a variable. -/
def isNameStart (c : Char) : Bool :=
  c.isAlpha || c == '_'

/-- Whether a character may stand in the name of a variable. -/
def isNameChar (c : Char) : Bool :=
  c.isAlphanum || c == '_'

/-- Whether a text is the name of a variable. -/
def isName (text : Raw) : Bool :=
  match text.toList with
  | [] => false
  | c :: rest => isNameStart c && rest.all isNameChar

/-- Whether a character is the name of a parameter by itself. -/
def isSpecialName (c : Char) : Bool :=
  c.isDigit || c == '#' || c == '?' || c == '$' || c == '@' || c == '*' || c == '!' || c == '-'

/-- The name in front of the first equals sign of a word and the word behind it, if it is an
assignment. -/
def assignment? (word : Word) : Option (Raw × Word) :=
  match word with
  | .text text false :: rest =>
    let name := text.toList.takeWhile isNameChar
    match text.toList.dropWhile isNameChar with
    | '=' :: value =>
      if isName (String.ofList name) then
        some (String.ofList name,
          if value.isEmpty then rest else .text (String.ofList value) false :: rest)
      else none
    | _ => none
  | _ => none

/-- The text of a word that is nothing but text outside of quotes. -/
def plainText? : Word → Option Raw
  | [] => some ""
  | .text text false :: rest => (plainText? rest).map (text ++ ·)
  | _ => none

end TenantHost.Rehearsal.Shell
