import TenantHost.Rehearsal.Raw
/-!
# Patterns

A pattern matches texts: a star stands for any text, a question mark for any character, and brackets
for one of some characters. Characters in quotes stand for themselves.
-/

namespace TenantHost.Rehearsal.Shell

/-- A character of a word, and whether it stood in quotes. -/
abbrev Letter : Type := Char × Bool

/-- What a part of a pattern matches. -/
inductive Matcher where
  | char (c : Char)
  | anyChar
  | anyText
  | oneOf (negated : Bool) (isMember : Char → Bool)

/-- A pattern. -/
abbrev Pattern : Type := List Matcher

/-- The characters of a class by its name. -/
def classOf (name : String) (c : Char) : Bool :=
  match name with
  | "alpha" => c.isAlpha
  | "digit" => c.isDigit
  | "alnum" => c.isAlphanum
  | "upper" => c.isUpper
  | "lower" => c.isLower
  | "space" => c == ' ' || ('\t' ≤ c && c ≤ '\r')
  | "blank" => c == ' ' || c == '\t'
  | "punct" => '!' ≤ c && c ≤ '~' && !c.isAlphanum
  | "print" => ' ' ≤ c && c ≤ '~'
  | "graph" => '!' ≤ c && c ≤ '~'
  | "cntrl" => c < ' ' || c == '\x7f'
  | "xdigit" => c.isDigit || ('a' ≤ c.toLower && c.toLower ≤ 'f')
  | _ => false

/-- The name of a class at the front of a text, up to its end, and the rest. -/
def takeClass : List Letter → Option (String × List Letter)
  | ('[', false) :: (':', _) :: rest =>
    let name := (rest.takeWhile fun letter => letter.1.isAlpha).map Prod.fst
    match rest.drop name.length with
    | (':', _) :: (']', _) :: rest => some (String.ofList name, rest)
    | _ => none
  | _ => none

/-- The members of brackets behind the opening one, and the rest behind the closing one, which is
not the first character. Without a closing one there are no brackets. -/
def takeMembers : Nat → Bool → List Letter → Option ((Char → Bool) × List Letter)
  | 0, _, _ => none
  | _, _, [] => none
  | size + 1, isFirst, (c, quoted) :: rest =>
    if c = ']' ∧ !quoted ∧ !isFirst then some (fun _ => false, rest)
    else
      match takeClass ((c, quoted) :: rest), rest with
      | some (name, rest), _ =>
        (takeMembers size false rest).map fun (others, rest) =>
          (fun d => classOf name d || others d, rest)
      | none, ('-', false) :: (last, quotedLast) :: behind =>
        if last = ']' ∧ !quotedLast then
          (takeMembers size false rest).map fun (others, rest) =>
            (fun d => d == c || others d, rest)
        else
          (takeMembers size false behind).map fun (others, rest) =>
            (fun d => (c ≤ d && d ≤ last) || others d, rest)
      | none, rest =>
        (takeMembers size false rest).map fun (others, rest) => (fun d => d == c || others d, rest)

/-- The pattern of a word; the first number bounds its length. A backslash keeps the character
behind it from meaning anything. -/
def patternFrom : Nat → List Letter → Pattern
  | 0, _ => []
  | _, [] => []
  | size + 1, (c, quoted) :: rest =>
    if quoted then .char c :: patternFrom size rest
    else
      match c, rest with
      | '*', rest => .anyText :: patternFrom size rest
      | '?', rest => .anyChar :: patternFrom size rest
      | '\\', (d, _) :: rest => .char d :: patternFrom size rest
      | '[', rest =>
        let (negated, members) :=
          match rest with
          | ('!', false) :: members => (true, members)
          | members => (false, members)
        match takeMembers (members.length + 1) true members with
        | some (isMember, rest) => .oneOf negated isMember :: patternFrom size rest
        | none => .char '[' :: patternFrom size rest
      | c, rest => .char c :: patternFrom size rest

/-- The pattern of a word. -/
def Pattern.ofLetters (letters : List Letter) : Pattern :=
  patternFrom letters.length letters

/-- Whether a part of a pattern matches a character. -/
def Matcher.accepts (matcher : Matcher) (c : Char) : Bool :=
  match matcher with
  | .char d => c == d
  | .anyChar => true
  | .anyText => true
  | .oneOf negated isMember => isMember c != negated

namespace Pattern

/-- Whether a pattern matches a text as a whole. -/
def covers (pattern : Pattern) (text : List Char) : Bool :=
  match pattern, text with
  | [], text => text.isEmpty
  | .anyText :: rest, [] => covers rest []
  | .anyText :: rest, c :: text => covers rest (c :: text) || covers (.anyText :: rest) text
  | _ :: _, [] => false
  | part :: rest, c :: text => part.accepts c && covers rest text
termination_by (pattern.length, text.length)

/-- Whether a word has parts that stand for more than one text. -/
def isProper (pattern : Pattern) : Bool :=
  pattern.any fun
    | .char _ => false
    | _ => true

/-- The lengths of the fronts of a text of so many characters. -/
def lengths (text : List Char) : List Nat :=
  List.range (text.length + 1)

/-- A text without the shortest or the longest front that a pattern matches. -/
def cutFront (pattern : Pattern) (longest : Bool) (text : List Char) : List Char :=
  let tries := if longest then (lengths text).reverse else lengths text
  match tries.find? fun n => pattern.covers (text.take n) with
  | some n => text.drop n
  | none => text

/-- A text without the shortest or the longest end that a pattern matches. -/
def cutBack (pattern : Pattern) (longest : Bool) (text : List Char) : List Char :=
  let tries := if longest then lengths text else (lengths text).reverse
  match tries.find? fun n => pattern.covers (text.drop n) with
  | some n => text.take n
  | none => text

end Pattern

end TenantHost.Rehearsal.Shell
