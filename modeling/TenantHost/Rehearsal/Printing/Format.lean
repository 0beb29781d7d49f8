import TenantHost.Rehearsal.Printing.Number
import TenantHost.Rehearsal.Program.Basic
/-!
# Formats

What `printf` writes: a format, again and again as long as its conversions use up arguments. There
are two of them, the program and the one that the shell has built in, which differ in what they
allow and in how they complain.
-/

namespace TenantHost.Rehearsal

/-- The two programs that print by a format. -/
inductive Printer where
  | program
  | builtin
  deriving DecidableEq

/-- What can be wrong with a format or with an argument of it. -/
inductive Complaint where
  | number (argument : Raw) (problem : NumberProblem)
  | behindCharacter (rest : Raw)
  | noConversion (text : Raw)
  | escape (problem : EscapeProblem)
  | badWidth (argument : Raw)
  | excess (argument : Raw)

/-- What happens while a format is written, in order. -/
inductive PrintEvent where
  | wrote (text : Raw)
  | complained (text : Raw)

/-- What a printer did, and the status that it ends with. -/
structure Printed where
  events : List PrintEvent
  status : Nat

namespace Printer

/-- The escapes that are carried out in a format. -/
def inFormat : Printer → Escapes
  | .program => ⟨false, true, true, true⟩
  | .builtin => ⟨false, false, false, false⟩

/-- The escapes that are carried out in an argument that asks for it. -/
def inArgument : Printer → Escapes
  | .program => ⟨true, true, true, true⟩
  | .builtin => ⟨true, false, false, true⟩

/-- The format that real numbers are kept in. -/
def realFormat : Printer → RealFormat
  | .program => .extended
  | .builtin => .double

/-- The status of a format that is given up. -/
def givenUp : Printer → Nat
  | .program => 1
  | .builtin => 2

/-- The wording of what is wrong with a number. -/
def numberWording (printer : Printer) : NumberProblem → String
  | .noNumber => if printer = .program then "expected a numeric value" else "expected numeric value"
  | .restBehind =>
    if printer = .program then "value not completely converted" else "not completely converted"
  | .tooGreat => "Numerical result out of range"

/-- The wording of a complaint. -/
def wording (printer : Printer) (complaint : Complaint) : Raw :=
  let shown (argument : Raw) : Raw := if printer = .program then curlyQuoted argument else argument
  match complaint with
  | .number argument problem => shown argument ++ ": " ++ printer.numberWording problem
  | .behindCharacter rest =>
    "warning: " ++ rest ++ ": character(s) following character constant have been ignored"
  | .noConversion text =>
    if printer = .program then text ++ ": invalid conversion specification"
    else if text.isEmpty then "missing format character"
    else text ++ ": invalid directive"
  | .escape .noDigits => "missing hexadecimal number in escape"
  | .escape (.badCharacter written) => "invalid universal character name " ++ written
  | .badWidth argument => "invalid field width: " ++ shown argument
  | .excess argument => "warning: ignoring excess arguments, starting with " ++ shown argument

end Printer

/-! ## The state of a format -/

/-- What is left of the arguments of a format, and what happened so far, the last first. -/
structure FormatState where
  printer : Printer
  arguments : List Raw
  used : Bool
  ended : Bool
  events : List PrintEvent
  status : Nat

namespace FormatState

/-- Writes a text. -/
def put (state : FormatState) (text : List Char) : FormatState :=
  { state with events := .wrote (String.ofList text) :: state.events }

/-- Takes an argument; a missing one is empty. -/
def take (state : FormatState) : Raw × FormatState :=
  (state.arguments.head?.getD "", { state with arguments := state.arguments.drop 1, used := true })

/-- Complains, with a status for it. -/
def complain (state : FormatState) (status : Nat) (complaint : Complaint) : FormatState :=
  { state with
    events := .complained (state.printer.wording complaint) :: state.events
    status := max state.status status }

/-- Complains and ends the output. -/
def giveUp (state : FormatState) (complaint : Complaint) : FormatState :=
  { state.complain state.printer.givenUp complaint with ended := true }

/-- Goes on behind a text, or not. -/
def goOn (state : FormatState) : Continuation → FormatState
  | .going => state
  | .ended => { state with ended := true }
  | .broken problem => state.giveUp (.escape problem)

/-- The number of the character behind a quote, if an argument is such a character. -/
def characterOf? (state : FormatState) (argument : Raw) : Option (Nat × FormatState) :=
  match argument.toList, state.printer with
  | q :: rest, .builtin =>
    if q = '\'' ∨ q = '"' then some ((rest.head?.map Char.toNat).getD 0, state) else none
  | q :: c :: rest, .program =>
    if q = '\'' ∨ q = '"' then
      let (n, rest) :=
        match Text.Utf8.scan (Raw.bytes (String.ofList (c :: rest))) with
        | .char d :: pieces => (d.toNat, pieces.flatMap pieceBytes)
        | _ => (c.toNat, rest)
      some (n, if rest.isEmpty then state
        else state.complain 0 (.behindCharacter (String.ofList rest)))
    else none
  | _, _ => none

/-- Takes an argument as a number. -/
def takeNumber {α : Type} (state : FormatState) (ofCharacter : Nat → α)
    (read : Raw → α × Option NumberProblem) : α × FormatState :=
  let (argument, state) := state.take
  match state.characterOf? argument with
  | some (n, state) => (ofCharacter n, state)
  | none =>
    match read argument with
    | (value, none) => (value, state)
    | (value, some problem) => (value, state.complain 1 (.number argument problem))

/-- Takes an argument as a whole number. -/
def takeWhole (state : FormatState) (signed : Bool) : Int × FormatState :=
  state.takeNumber (fun n => (n : Int)) (readWhole signed)

/-- Takes an argument as a real number. -/
def takeReal (state : FormatState) : Real × FormatState :=
  let format := state.printer.realFormat
  state.takeNumber (fun n => (format.round false n 1).1) format.read

end FormatState

/-! ## Conversions -/

/-- A conversion of a format: how its text is padded and what it converts to. -/
structure Conversion where
  flags : List Char
  width : Nat
  precision : Option Nat
  letter : Char

/-- A width or a precision at the front of a text: digits, or a star that stands for an argument. -/
def FormatState.takeSize (state : FormatState) (text : List Char) :
    Int × FormatState × List Char :=
  match text with
  | '*' :: rest =>
    if state.arguments.isEmpty then (0, state, rest)
    else
      let (n, state) := state.takeWhole true
      (n, state, rest)
  | text =>
    let (digits, rest) := takeDigits 10 text.length text
    (numberOf 10 digits, state, rest)

/-- The conversions that a printer knows. -/
def Printer.letters (printer : Printer) : List Char :=
  if printer = .program then "aAcdeEfFgGiosuxX".toList else "aAbcdeEfFgGiosuxX".toList

/-- Whether a conversion takes the flags that it has, and a precision. -/
def Printer.allows (printer : Printer) (flags : List Char) (hasPrecision : Bool) (letter : Char) :
    Bool :=
  printer.letters.contains letter && (printer = .builtin ||
    (!((flags.contains '\'' || flags.contains 'I') && "aAceEosxX".toList.contains letter) &&
      !(flags.contains '#' && "cdisu".toList.contains letter) &&
      !(flags.contains '0' && "cs".toList.contains letter) && !(hasPrecision && letter == 'c')))

/-- Reads a conversion behind its percent sign, which ends the output if it is not known. -/
def FormatState.takeConversion (state : FormatState) (text : List Char) :
    Option Conversion × FormatState × List Char :=
  let isProgram := state.printer == .program
  let isFlag (c : Char) : Bool :=
    "-+ 0#".toList.contains c || (isProgram && (c == '\'' || c == 'I'))
  let flags := text.takeWhile isFlag
  let (width, state, rest) := state.takeSize (text.dropWhile isFlag)
  let (precision, state, rest, hasPrecision) :=
    match rest with
    | '.' :: rest =>
      let (n, state, rest) := state.takeSize rest
      (if n < 0 then none else some n.toNat, state, rest, true)
    | rest => (none, state, rest, false)
  let rest := if isProgram then rest.dropWhile "lLhjtz".toList.contains else rest
  let written (behind : List Char) :
      Raw := String.ofList ('%' :: text.take (text.length - behind.length))
  match rest with
  | letter :: behind =>
    if state.printer.allows flags hasPrecision letter then
      let flags := if width < 0 then '-' :: flags else flags
      (some ⟨flags, width.natAbs, precision, letter⟩, state, behind)
    else (none, state.giveUp (.noConversion (written behind)), [])
  | [] => (none, state.giveUp (.noConversion (if isProgram then written [] else "")), [])

namespace Conversion

/-- Pads a converted text to the width. -/
def pad (conversion : Conversion) (text : List Char) : List Char :=
  let missing := List.replicate (conversion.width - text.length) ' '
  if conversion.flags.contains '-' then text ++ missing else missing ++ text

/-- Whether zeros fill the width. -/
def fillsWithZeros (conversion : Conversion) : Bool :=
  conversion.flags.contains '0' && !conversion.flags.contains '-'

/-- The mark in front of a number with a sign. -/
def signMark (conversion : Conversion) (negative : Bool) : List Char :=
  if negative then ['-']
  else if conversion.flags.contains '+' then ['+']
  else if conversion.flags.contains ' ' then [' ']
  else []

/-- Puts a mark in front of digits, with zeros between them to the width. -/
def padNumber (conversion : Conversion) (mark digits : List Char) (zeros : Bool) : List Char :=
  let missing := if zeros then conversion.width - mark.length - digits.length else 0
  conversion.pad (mark ++ List.replicate missing '0' ++ digits)

/-- A whole number in the base of a conversion. -/
def whole (conversion : Conversion) (n : Int) : List Char :=
  let signed := conversion.letter == 'd' || conversion.letter == 'i'
  let plain :=
    match conversion.letter with
    | 'o' => Nat.toDigits 8 n.natAbs
    | 'x' => Nat.toDigits 16 n.natAbs
    | 'X' => (Nat.toDigits 16 n.natAbs).map Char.toUpper
    | _ => Nat.toDigits 10 n.natAbs
  let plain := if conversion.precision = some 0 ∧ n = 0 then [] else plain
  let digits := List.replicate (conversion.precision.getD 0 - plain.length) '0' ++ plain
  let marked := conversion.flags.contains '#'
  let digits := if marked && conversion.letter == 'o' && digits.head? != some '0' then '0' :: digits
      else digits
  let mark :=
    if signed then conversion.signMark (decide (n < 0))
    else if marked && n != 0 then
      match conversion.letter with
      | 'x' => ['0', 'x']
      | 'X' => ['0', 'X']
      | _ => []
    else []
  conversion.padNumber mark digits (conversion.fillsWithZeros && conversion.precision.isNone)

/-- A finite real number without its sign. -/
def digitsOf (conversion : Conversion) (format : RealFormat) (mantissa : Nat) (exponent : Int) :
    List Char :=
  let all := conversion.flags.contains '#'
  let precision := conversion.precision.getD 6
  let letter := conversion.letter
  match letter.toLower with
  | 'f' => pointed (tenths mantissa exponent precision) precision all
  | 'e' =>
    let (power, n) := leadingDigits mantissa exponent (precision + 1)
    scientific letter power n precision all
  | 'g' => general letter mantissa exponent precision all
  | _ =>
    let text := format.hexadecimal mantissa exponent conversion.precision all
    if letter = 'A' then text.map Char.toUpper else text

/-- A real number. -/
def real (conversion : Conversion) (format : RealFormat) (real : Real) : List Char :=
  let cased (word : String) : List Char :=
    if conversion.letter.isUpper then word.toList.map Char.toUpper else word.toList
  match real with
  | .undefined => conversion.padNumber (conversion.signMark false) (cased "nan") false
  | .infinite negative => conversion.padNumber (conversion.signMark negative) (cased "inf") false
  | .finite negative mantissa exponent =>
    let mark := conversion.signMark negative ++
      (if conversion.letter.toLower = 'a' then cased "0x" else [])
    conversion.padNumber mark (conversion.digitsOf format mantissa exponent)
      conversion.fillsWithZeros

end Conversion

namespace FormatState

/-- Writes an argument with its escapes carried out. -/
def unescape (state : FormatState) (shape : List Char → List Char) : FormatState :=
  let (argument, state) := state.take
  let (text, continuation) := state.printer.inArgument.carryOut argument.length argument.toList
  (state.put (shape text)).goOn continuation

/-- Carries out a conversion. -/
def convert (state : FormatState) (conversion : Conversion) : FormatState :=
  let cut (text : List Char) : List Char :=
    match conversion.precision with
    | some precision => text.take precision
    | none => text
  match conversion.letter with
  | 's' =>
    let (argument, state) := state.take
    state.put (conversion.pad (cut argument.toList))
  | 'c' =>
    let (argument, state) := state.take
    state.put (conversion.pad [argument.toList.head?.getD '\x00'])
  | 'b' => state.unescape fun text => conversion.pad (cut text)
  | letter =>
    if "diouxX".toList.contains letter then
      let (n, state) := state.takeWhole (letter = 'd' ∨ letter = 'i')
      state.put (conversion.whole n)
    else
      let (real, state) := state.takeReal
      state.put (conversion.real state.printer.realFormat real)

/-- Goes through a format once; the first number bounds its length. -/
def pass (state : FormatState) : Nat → List Char → FormatState
  | 0, _ => state
  | _, [] => state
  | size + 1, c :: rest =>
    if state.ended then state
    else
      match c, rest, state.printer with
      | '\\', rest, _ =>
        match state.printer.inFormat.read rest with
        | .ended => state.goOn .ended
        | .broken problem => state.goOn (.broken problem)
        | .wrote text rest => (state.put text).pass size rest
      | '%', '%' :: rest, _ => (state.put ['%']).pass size rest
      | '%', 'b' :: rest, .program => (state.unescape id).pass size rest
      | '%', 'q' :: rest, .program =>
        let (argument, state) := state.take
        (state.put (shellQuotedIfNeeded argument).toList).pass size rest
      | '%', rest, _ =>
        match state.takeConversion rest with
        | (none, state, _) => state
        | (some conversion, state, rest) => (state.convert conversion).pass size rest
      | c, rest, _ =>
        let plain := rest.takeWhile fun d => d != '%' && d != '\\'
        (state.put (c :: plain)).pass size (rest.drop plain.length)

/-- Goes through a format as long as that uses up arguments; the first number bounds them. -/
def passes (format : List Char) : Nat → FormatState → FormatState
  | 0, state => state
  | size + 1, state =>
    let state := { state with used := false }.pass format.length format
    if state.ended || state.arguments.isEmpty || !state.used then state
    else passes format size state

end FormatState

/-- What a printer does with a format and its arguments. -/
def Printer.print (printer : Printer) (format : Raw) (arguments : List Raw) : Printed :=
  let state := FormatState.passes format.toList (arguments.length + 1) ⟨printer, arguments, false,
    false, [], 0⟩
  let state :=
    match printer, state.arguments with
    | .program, argument :: _ => if state.ended then state else state.complain 0 (.excess argument)
    | _, _ => state
  ⟨state.events.reverse, state.status⟩

/-- The program `printf`. -/
def printfProgram : Job Nat := do
  match (← read).arguments with
  | [] => Job.misuse "missing operand" 1
  | ["--"] => Job.misuse "missing operand" 1
  | first :: rest =>
    let (format, arguments) := if first = "--" then (rest.head?.getD "", rest.drop 1)
        else (first, rest)
    let printed := Printer.program.print format arguments
    for event in printed.events do
      match event with
      | .wrote text => Job.put text
      | .complained text => Job.complain text
    return printed.status

end TenantHost.Rehearsal
