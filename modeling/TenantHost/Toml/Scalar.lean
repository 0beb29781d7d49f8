import TenantHost.Fault
import TenantHost.Double.Reading
/-!
# Scalars of a document

Numbers, dates and times, and texts, each read from the front of what is left of a document. A
number is read as far as its grammar goes; what stands behind it is for the statement to accept. A
decimal integer may have a limited number of digits.
-/

namespace TenantHost.Toml

/-- The text is not a document. -/
def malformed {α : Type} : Except Fault α :=
  .error (.malformedDocument false)

/-- The rest of a text behind a beginning, if it has that. -/
def after? (beginning text : List Char) : Option (List Char) :=
  if beginning.isPrefixOf text then some (text.drop beginning.length) else none

/-! ## Digits -/

/-- Digits of a class, with single underscores between them, and the rest. -/
def spanGrouped (isDigit : Char → Bool) : List Char → List Char × List Char
  | [] => ([], [])
  | c :: rest =>
    if isDigit c then
      let (digits, rest) := spanGrouped isDigit rest
      (c :: digits, rest)
    else
      match c, rest with
      | '_', d :: more =>
        if isDigit d then
          let (digits, rest) := spanGrouped isDigit more
          (d :: digits, rest)
        else ([], c :: rest)
      | _, _ => ([], c :: rest)

/-- At least one digit of a class, with single underscores between them. -/
def grouped? (isDigit : Char → Bool) (text : List Char) : Option (List Char × List Char) :=
  if text.head?.any isDigit then some (spanGrouped isDigit text) else none

/-- The value of a hexadecimal digit. -/
def hexValue? (c : Char) : Option Nat :=
  if c.isDigit then some (c.toNat - '0'.toNat)
  else if 'a' ≤ c ∧ c ≤ 'f' then some (c.toNat - 'a'.toNat + 10)
  else if 'A' ≤ c ∧ c ≤ 'F' then some (c.toNat - 'A'.toNat + 10)
  else none

/-- The number that digits write in a base. -/
def baseValue (base : Nat) (digits : List Char) : Nat :=
  digits.foldl (fun n c => base * n + (hexValue? c).getD 0) 0

/-- Whether a character is a digit in a base. -/
def isBaseDigit (base : Nat) (c : Char) : Bool :=
  (hexValue? c).any (· < base)

/-! ## Numbers -/

/-- An integer in one of the bases that a letter tells. -/
def basedInteger? (text : List Char) : Option (Value × List Char) :=
  let read (base : Nat) (rest : List Char) :=
    (grouped? (isBaseDigit base) rest).map fun (digits, rest) =>
      (Value.int (baseValue base digits), rest)
  match text with
  | '0' :: 'x' :: rest => read 16 rest
  | '0' :: 'o' :: rest => read 8 rest
  | '0' :: 'b' :: rest => read 2 rest
  | _ => none

/-- The digits behind a point, if there are any. -/
def fraction (text : List Char) : List Char × List Char :=
  match text with
  | '.' :: rest => (grouped? Char.isDigit rest).getD ([], text)
  | _ => ([], text)

/-- The power of ten at the end of a number, if there is one. -/
def exponent? (text : List Char) : Option (Int × List Char) :=
  match text with
  | c :: rest =>
    if c = 'e' ∨ c = 'E' then
      let (negative, rest) := Double.spanSign rest
      (grouped? Char.isDigit rest).map fun (digits, rest) =>
        (Double.signed negative (Double.digitsValue digits), rest)
    else none
  | [] => none

/-- The digits before the point: a single zero, or digits that do not begin with one. -/
def wholeDigits? (text : List Char) : Option (List Char × List Char) :=
  match text with
  | '0' :: rest => some (['0'], rest)
  | _ => grouped? Char.isDigit text

/-- A decimal integer or double. -/
def decimal? (text : List Char) : Option (Except Fault (Value × List Char)) := do
  let (negative, unsigned) := Double.spanSign text
  let (whole, rest) ← wholeDigits? unsigned
  let (places, rest) := fraction rest
  match places.isEmpty, exponent? rest with
  | true, none =>
    if Number.digitLimit < whole.length then return .error (.tooManyDigits (some whole.length))
    else return .ok (.int (Double.signed negative (Double.digitsValue whole)), rest)
  | _, found =>
    let (power, rest) := found.getD (0, rest)
    let digits := Double.digitsValue (whole ++ places)
    return .ok (.real (Double.ofDecimal negative digits (power - places.length)), rest)

/-- A number. -/
def number? (text : List Char) : Option (Except Fault (Value × List Char)) :=
  (basedInteger? text).map Except.ok <|> decimal? text

/-- Infinity or NaN, with a sign or without. -/
def special? (text : List Char) : Option (Value × List Char) :=
  let (negative, name) := Double.spanSign text
  ((after? ['i', 'n', 'f'] name).map fun rest => (.real (.infinity negative), rest)) <|>
    ((after? ['n', 'a', 'n'] name).map fun rest => (.real .nan, rest))

/-! ## Dates and times -/

/-- Exactly so many digits, as a number. -/
def exactDigits? (count : Nat) (text : List Char) : Option (Nat × List Char) :=
  let digits := text.take count
  if digits.length = count ∧ digits.all Char.isDigit then
    some (Double.digitsValue digits, text.drop count)
  else none

/-- Exactly so many digits whose number is within bounds. -/
def boundedDigits? (count least greatest : Nat) (text : List Char) : Option (Nat × List Char) := do
  let (n, rest) ← exactDigits? count text
  if least ≤ n ∧ n ≤ greatest then return (n, rest) else none

/-- The digits of a second behind a point as microseconds, cut off after the sixth. -/
def microseconds (text : List Char) : Nat × List Char :=
  match text with
  | '.' :: rest =>
    let (digits, behind) := Double.spanDigits rest
    if digits.isEmpty then (0, text)
    else
      let kept := digits.take 6
      (Double.digitsValue kept * tenTo (6 - kept.length), behind)
  | _ => (0, text)

/-- A time of day. -/
def timeOfDay? (text : List Char) : Option (TimeOfDay × List Char) := do
  let (hour, rest) ← boundedDigits? 2 0 23 text
  let (minute, rest) ← boundedDigits? 2 0 59 (← after? [':'] rest)
  let (second, rest) ← boundedDigits? 2 0 59 (← after? [':'] rest)
  let (micros, rest) := microseconds rest
  return (⟨hour, minute, second, micros⟩, rest)

/-- A date whose month and day are at least possible ones. -/
def date? (text : List Char) : Option (Date × List Char) := do
  let (year, rest) ← exactDigits? 4 text
  let (month, rest) ← boundedDigits? 2 1 12 (← after? ['-'] rest)
  let (day, rest) ← boundedDigits? 2 1 31 (← after? ['-'] rest)
  return (⟨year, month, day⟩, rest)

/-- A distance to UTC in minutes. -/
def offset? (text : List Char) : Option (Int × List Char) :=
  match text with
  | 'Z' :: rest => some (0, rest)
  | 'z' :: rest => some (0, rest)
  | c :: rest =>
    if c = '+' ∨ c = '-' then do
      let (hours, rest) ← boundedDigits? 2 0 23 rest
      let (minutes, rest) ← boundedDigits? 2 0 59 (← after? [':'] rest)
      return (Double.signed (c == '-') (60 * hours + minutes), rest)
    else none
  | [] => none

/-- The time of day behind a date. -/
def timeBehindDate? (text : List Char) : Option (TimeOfDay × List Char) :=
  match text with
  | c :: rest => if c = 'T' ∨ c = 't' ∨ c = ' ' then timeOfDay? rest else none
  | [] => none

/-- A date, alone or with a time of day; it has to be on the calendar. -/
def dated? (text : List Char) : Option (Except Fault (Value × List Char)) := do
  let (date, rest) ← date? text
  if !date.isValid then return .error (.malformedDocument true)
  else
    match timeBehindDate? rest with
    | none => return .ok (.moment (.date date), rest)
    | some (time, rest) =>
      match offset? rest with
      | none => return .ok (.moment (.dateTime date time none), rest)
      | some (minutes, rest) => return .ok (.moment (.dateTime date time (some minutes)), rest)

/-- A date, a time of day, or both. -/
def moment? (text : List Char) : Option (Except Fault (Value × List Char)) :=
  dated? text <|> (timeOfDay? text).map fun (time, rest) => .ok (.moment (.time time), rest)

/-! ## Texts -/

/-- Whether a character may not stand in a line: a control other than the tab. -/
def isIllegal (c : Char) : Bool :=
  (c.toNat < 0x20 && c != '\t') || c.toNat == 0x7F

/-- Whether a character is a blank within a line. -/
def isLineBlank (c : Char) : Bool :=
  c == ' ' || c == '\t'

/-- Drops the blanks in front. -/
def skipBlanks (text : List Char) : List Char :=
  text.dropWhile isLineBlank

/-- Drops the blanks and line ends in front. -/
def skipBlankLines (text : List Char) : List Char :=
  text.dropWhile fun c => isLineBlank c || c == '\n'

/-- The character of a code that an escape gives in so many hexadecimal digits. -/
def codedChar (count : Nat) (text : List Char) : Except Fault (List Char × List Char) :=
  let digits := text.take count
  let code := baseValue 16 digits
  if digits.length = count ∧ digits.all (isBaseDigit 16) ∧ code.isValidChar then
    .ok ([Char.ofNat code], text.drop count)
  else malformed

/-- What a backslash and the text behind it stand for. At the end of a line of a text of several
lines it takes away the line end and the blanks that follow. -/
def escaped (multiline : Bool) (text : List Char) : Except Fault (List Char × List Char) :=
  match text with
  | 'b' :: rest => .ok (['\x08'], rest)
  | 't' :: rest => .ok (['\t'], rest)
  | 'n' :: rest => .ok (['\n'], rest)
  | 'f' :: rest => .ok (['\x0c'], rest)
  | 'r' :: rest => .ok (['\r'], rest)
  | '"' :: rest => .ok (['"'], rest)
  | '\\' :: rest => .ok (['\\'], rest)
  | 'u' :: rest => codedChar 4 rest
  | 'U' :: rest => codedChar 8 rest
  | c :: _ =>
    if multiline && (isLineBlank c || c == '\n') then
      match skipBlanks text with
      | [] => .ok ([], [])
      | '\n' :: rest => .ok ([], skipBlankLines rest)
      | _ => malformed
    else malformed
  | [] => malformed

/-- The characters of a text in double quotes up to its end, and the rest; `fuel` bounds their
number. -/
def basicBody (multiline : Bool) : Nat → List Char → Except Fault (List Char × List Char)
  | 0, _ => malformed
  | _, [] => malformed
  | fuel + 1, c :: rest =>
    let goOn (front : List Char) (rest : List Char) : Except Fault (List Char × List Char) := do
      let (back, rest) ← basicBody multiline fuel rest
      return (front ++ back, rest)
    if c = '"' then
      if !multiline then .ok ([], rest)
      else
        match after? ['"', '"'] rest with
        | some rest => .ok ([], rest)
        | none => goOn [c] rest
    else if c = '\\' then
      match escaped multiline rest with
      | .ok (front, rest) => goOn front rest
      | .error fault => .error fault
    else if isIllegal c && !(multiline && c == '\n') then malformed
    else goOn [c] rest

/-- The characters of a text in single quotes up to its end, and the rest. -/
def literalBody (multiline : Bool) : List Char → Except Fault (List Char × List Char)
  | [] => malformed
  | c :: rest =>
    let goOn : Except Fault (List Char × List Char) := do
      let (back, behind) ← literalBody multiline rest
      return (c :: back, behind)
    if c = '\'' then
      if !multiline then .ok ([], rest)
      else
        match after? ['\'', '\''] rest with
        | some rest => .ok ([], rest)
        | none => goOn
    else if isIllegal c && !(multiline && c == '\n') then malformed
    else goOn

/-- Up to two more quotes at the end of a text of several lines belong to it. -/
def trailingQuotes (quote : Char) (body rest : List Char) : List Char × List Char :=
  match after? [quote, quote] rest with
  | some rest => (body ++ [quote, quote], rest)
  | none =>
    match after? [quote] rest with
    | some rest => (body ++ [quote], rest)
    | none => (body, rest)

/-- Drops the line end that a text of several lines may begin with. -/
def skipLineEnd (text : List Char) : List Char :=
  (after? ['\n'] text).getD text

/-- A text on one line, behind its first quote; `size` bounds its length. -/
def lineText (size : Nat) (quote : Char) (text : List Char) :
    Except Fault (List Char × List Char) :=
  if quote = '"' then basicBody false size text else literalBody false text

/-- A text of several lines, behind its first three quotes. -/
def linesText (size : Nat) (quote : Char) (text : List Char) :
    Except Fault (List Char × List Char) := do
  let text := skipLineEnd text
  let (body, rest) ← if quote = '"' then basicBody true size text else literalBody true text
  return trailingQuotes quote body rest

/-- A text, behind its first quote. -/
def quotedText (size : Nat) (quote : Char) (text : List Char) :
    Except Fault (Value × List Char) := do
  let (body, rest) ←
    match after? [quote, quote] text with
    | some rest => linesText size quote rest
    | none => lineText size quote text
  return (.text (String.ofList body), rest)

end TenantHost.Toml
