import TenantHost.Rehearsal.Program.Filing
import TenantHost.Rehearsal.Regex
import TenantHost.Rehearsal.Printing.Format
import TenantHost.Rehearsal.Test
/-!
# Programs about values

The programs that compute with their arguments: sequences of numbers, expressions, parts of paths,
tests, and what the surroundings are.
-/

namespace TenantHost.Rehearsal.Program

/-! ## Sequences -/

/-- A decimal number: so many units, and the number of digits behind the point that a unit is. -/
structure Decimal where
  units : Int
  digits : Nat

/-- The decimal that an argument writes. -/
def decimal? (text : Raw) : Option Decimal :=
  let (negative, rest) := takeSign text.toList
  match takePointed 10 rest with
  | (d :: values, behind, []) =>
    let n : Int := numberOf 10 (d :: values)
    some ⟨if negative then -n else n, behind⟩
  | _ => none

/-- The units of a decimal with so many digits behind the point. -/
def Decimal.scaled (decimal : Decimal) (digits : Nat) : Int :=
  decimal.units * tenTo (digits - decimal.digits)

/-- A number of units in digits, with zeros in front to a width. -/
def unitsText (digits width : Nat) (units : Int) : Raw :=
  let text := pointed units.natAbs digits false
  let sign : List Char := if units < 0 then ['-'] else []
  String.ofList (sign ++ List.replicate (width - sign.length - text.length) '0' ++ text)

/-- The numbers from a first one on, in steps, up to a last one; the first number bounds how
many. -/
def numbersFrom : Nat → Int → Int → Int → List Int
  | 0, _, _, _ => []
  | count + 1, first, step, last =>
    if (step > 0 ∧ first > last) ∨ (step < 0 ∧ first < last) then []
    else first :: numbersFrom count (first + step) step last

/-- How many numbers lie between two ones in steps. -/
def countBetween (first step last : Int) : Nat :=
  if step = 0 then 0 else ((last - first) / step).toNat + 1

/-- Whether an argument is a negative number rather than an option. -/
def isNegativeNumber (text : Raw) : Bool :=
  match text.toList with
  | '-' :: c :: _ => c.isDigit || c == '.'
  | _ => false

/-- Writes a sequence of numbers. -/
def seq : Job Nat := do
  let arguments := (← read).arguments
  let flags := arguments.takeWhile fun argument => !isNegativeNumber argument
  let (inFront, behind) :=
    match Options.read ⟨"w", "sf", [("separator", 's'), ("format", 'f'), ("equal-width", 'w')],
      false⟩ flags with
    | .ok options => (Except.ok options, arguments.drop flags.length)
    | .error complaint => (.error complaint, [])
  match inFront with
  | .error complaint => Job.misuse complaint 1
  | .ok options =>
    let operands := options.others ++ behind
    match operands with
    | [] => Job.misuse "missing operand" 1
    | _ :: _ :: _ :: extra :: _ => Job.misuse ("extra operand " ++ curlyQuoted extra) 1
    | operands =>
      match operands.find? fun text => (decimal? text).isNone with
      | some text => Job.misuse ("invalid floating point argument: " ++ curlyQuoted text) 1
      | none =>
        let one : Decimal := ⟨1, 0⟩
        let (first, step, last) :=
          match operands.filterMap decimal? with
          | [last] => (one, one, last)
          | [first, last] => (first, one, last)
          | [first, step, last] => (first, step, last)
          | _ => (one, one, one)
        if step.units = 0 then
          Job.misuse ("invalid Zero increment value: " ++ curlyQuoted (operands[1]?.getD "")) 1
        else
          let digits := max first.digits step.digits
          let scale := max digits last.digits
          let low := first.scaled scale
          let stride := step.scaled scale
          let high := last.scaled scale
          let all := numbersFrom (countBetween low stride high) low stride high
          let shown (width : Nat) (n : Int) :
              Raw := unitsText digits width (n / tenTo (scale - digits))
          let width :=
            if options.has 'w' then max (shown 0 low).length
              (shown 0 (all.getLast?.getD high)).length else 0
          let texts := all.map fun n =>
            match options.value? 'f' with
            | some format =>
              String.join ((Printer.program.print format [unitsText scale 0 n]).events.map fun
                | .wrote text => text
                | .complained _ => "")
            | none => shown width n
          let separator := (options.value? 's').getD "\n"
          if !texts.isEmpty then Job.put (separator.intercalate texts ++ "\n")
          return 0

/-! ## Expressions -/

/-- Why an expression has no value. -/
abbrev Expressed : Type := Except Raw (Raw × List Raw)

/-- A truth value as a text. -/
def truthText (b : Bool) : Raw :=
  if b then "1" else "0"

/-- Whether a text counts as false. -/
def isFalse (text : Raw) : Bool :=
  text = "" || text = "0" || (text.startsWith "-" && (text.drop 1).toString = "0")

/-- The whole number that a text writes. -/
def wholeNumber? (text : Raw) : Option Int :=
  match text.toList with
  | '-' :: rest =>
    if !rest.isEmpty && rest.all Char.isDigit then some (-(String.ofList rest).toNat?.getD 0)
    else none
  | rest => if !rest.isEmpty && rest.all Char.isDigit then some (text.toNat?.getD 0) else none

/-- The value of an operator between texts. -/
def operatorValue (symbol left right : Raw) : Except Raw Raw :=
  let arithmetic (f : Int → Int → Except Raw Int) : Except Raw Raw :=
    match wholeNumber? left, wholeNumber? right with
    | some a, some b => (f a b).map toString
    | _, _ => .error "non-integer argument"
  let order : Ordering :=
    match wholeNumber? left, wholeNumber? right with
    | some a, some b => compare a b
    | _, _ => compareOfLessAndEq left right
  match symbol with
  | "+" => arithmetic fun a b => .ok (a + b)
  | "-" => arithmetic fun a b => .ok (a - b)
  | "*" => arithmetic fun a b => .ok (a * b)
  | "/" => arithmetic fun a b => if b = 0 then .error "division by zero" else .ok (Int.tdiv a b)
  | "%" => arithmetic fun a b => if b = 0 then .error "division by zero" else .ok (Int.tmod a b)
  | "<" => .ok (truthText (order == .lt))
  | "<=" => .ok (truthText (order != .gt))
  | "=" => .ok (truthText (order == .eq))
  | "==" => .ok (truthText (order == .eq))
  | "!=" => .ok (truthText (order != .eq))
  | ">=" => .ok (truthText (order != .lt))
  | _ => .ok (truthText (order == .gt))

/-- What an expression matches at the front of a text: its first group, or the number of its
characters. -/
def matched (text pattern : Raw) : Except Raw Raw := do
  let regex ← Regex.ofText ⟨false, false⟩ (Raw.toText pattern).toList
  let hasGroup := (pattern.splitOn "\\(").length > 1
  let chars := (Raw.toText text).toList.toArray
  match regex.matchAt chars 0 with
  | none => .ok (if hasGroup then "" else "0")
  | some (stop, groups) =>
    if hasGroup then
      match groups.lookup 1 with
      | some (start, stop) => .ok (Raw.ofText (String.ofList (chars.extract start stop).toList))
      | none => .ok ""
    else .ok (toString stop)

/-- The operators of an expression from the loosest to the tightest. -/
def expressionRanks : List (List Raw) :=
  [["|"], ["&"], ["<", "<=", "=", "==", "!=", ">=", ">"], ["+", "-"], ["*", "/", "%"], [":"]]

/-- An operand of an expression. -/
def expressionOperand (whole : List Raw → Expressed) (last : Raw) : List Raw → Expressed
  | [] => .error ("syntax error: missing argument after " ++ curlyQuoted last)
  | "(" :: rest => do
    match ← whole rest with
    | (value, ")" :: rest) => .ok (value, rest)
    | (value, []) => .error ("syntax error: expecting ')' after " ++ curlyQuoted value)
    | (_, other :: _) => .error ("syntax error: expecting ')' instead of " ++ curlyQuoted other)
  | ")" :: _ => .error "syntax error: unexpected ')'"
  | "+" :: text :: rest => .ok (text, rest)
  | "length" :: text :: rest => .ok (toString (Raw.toText text).length, rest)
  | "match" :: text :: pattern :: rest => (matched text pattern).map fun value => (value, rest)
  | "index" :: text :: chars :: rest =>
    let place := (Raw.toText text).toList.findIdx? (Raw.toText chars).toList.contains
    .ok (toString ((place.map (· + 1)).getD 0), rest)
  | "substr" :: text :: start :: count :: rest =>
    match wholeNumber? start, wholeNumber? count with
    | some start, some count =>
      if start < 1 ∨ count < 1 then .ok ("", rest)
      else
        .ok (Raw.ofText (String.ofList
          (((Raw.toText text).toList.drop (start.toNat - 1)).take count.toNat)), rest)
    | _, _ => .ok ("", rest)
  | text :: rest => .ok (text, rest)

/-- Goes on with operators behind a value; the first number bounds them. -/
def expressionChain (next : Raw → List Raw → Expressed) (symbols : List Raw) :
    Nat → Raw → List Raw → Expressed
  | 0, value, rest => .ok (value, rest)
  | _, value, [] => .ok (value, [])
  | size + 1, value, symbol :: rest =>
    if !symbols.contains symbol then .ok (value, symbol :: rest)
    else do
      let (right, rest) ← next symbol rest
      let result ←
        match symbol with
        | "|" => pure (if isFalse value then (if isFalse right then "0" else right) else value)
        | "&" => pure (if isFalse value || isFalse right then "0" else value)
        | ":" => matched value right
        | symbol => operatorValue symbol value right
      expressionChain next symbols size result rest

/-- An expression of operators of certain ranks. -/
def expressionOf (whole : List Raw → Expressed) :
    List (List Raw) → Raw → List Raw → Expressed
  | [], last, arguments => expressionOperand whole last arguments
  | symbols :: tighter, last, arguments => do
    let (value, rest) ← expressionOf whole tighter last arguments
    expressionChain (expressionOf whole tighter) symbols rest.length value rest

/-- A whole expression; the first number bounds how deep it goes. -/
def expressionFrom : Nat → List Raw → Expressed
  | 0, _ => .error "syntax error"
  | depth + 1, arguments => expressionOf (expressionFrom depth) expressionRanks "(" arguments

/-- Writes the value of an expression. -/
def expr : Job Nat := do
  let arguments := (← read).arguments
  let arguments := if arguments.head? = some "--" then arguments.drop 1 else arguments
  if arguments.isEmpty then Job.misuse "missing operand" 2
  else
    match expressionFrom (arguments.length + 1) arguments with
    | .error complaint => Job.fail complaint 2
    | .ok (_, extra :: _) => Job.fail ("syntax error: unexpected argument " ++ curlyQuoted extra) 2
    | .ok (value, []) =>
      Job.put (value ++ "\n")
      return if isFalse value then 1 else 0

/-! ## Paths -/

/-- A name without an end that is not all of it. -/
def withoutEnd (name suffix : Raw) : Raw :=
  if suffix ≠ "" ∧ name.endsWith suffix ∧ name ≠ suffix then
    (name.dropEnd suffix.length).toString else name

/-- Writes the last names of paths. -/
def basename : Job Nat := do
  match Options.read ⟨"az", "s", [("multiple", 'a'), ("suffix", 's')], false⟩
    (← read).arguments with
  | .error complaint => Job.misuse complaint 1
  | .ok options =>
    match options.others, options.has 'a' || options.has 's' with
    | [], _ => Job.misuse "missing operand" 1
    | paths, true =>
      let suffix := (options.value? 's').getD ""
      Job.put (Raw.ofLines (paths.map fun path => withoutEnd (lastName path) suffix))
      return 0
    | [path], false =>
      Job.put (lastName path ++ "\n")
      return 0
    | [path, suffix], false =>
      Job.put (withoutEnd (lastName path) suffix ++ "\n")
      return 0
    | _ :: _ :: extra :: _, false => Job.misuse ("extra operand " ++ curlyQuoted extra) 1

/-- A path without its last name. -/
def frontOf (path : Raw) : Raw :=
  let trim (text : List Char) : List Char := (text.reverse.dropWhile (· == '/')).reverse
  let text := trim path.toList
  let front := (text.reverse.dropWhile (· != '/')).reverse
  if text.isEmpty then (if path.startsWith "/" then "/" else ".")
  else if front.isEmpty then "."
  else if (trim front).isEmpty then "/"
  else String.ofList (trim front)

/-- Writes paths without their last names. -/
def dirname : Job Nat :=
  Job.withOptions "z" "" [] 1 fun options => do
    if options.others.isEmpty then Job.misuse "missing operand" 1
    else
      Job.put (Raw.ofLines (options.others.map frontOf))
      return 0

/-! ## Tests -/

/-- The wording of a test that cannot be decided. -/
def testComplaint : Test.Problem → Raw
  | .unexpected argument => "extra argument " ++ curlyQuoted argument
  | .missingOperand operator => "missing argument after " ++ curlyQuoted operator
  | .openBracket => "')' expected"
  | .noNumber text => "invalid integer " ++ curlyQuoted text

/-- Decides a test. -/
def decide (isBracket : Bool) : Job Nat := do
  let call ← read
  if isBracket && call.arguments.getLast? != some "]" then
    Job.fail ("missing " ++ curlyQuoted "]") 2
  else
    let arguments := if isBracket then call.arguments.dropLast else call.arguments
    match arguments with
    | [operator, operand] =>
      if operator != "!" && Test.kind? operator != some .unary then
        if operator.startsWith "-" && operator.length = 2 then
          return ← Job.fail (curlyQuoted operator ++ ": unary operator expected") 2
        else return ← Job.fail ("missing argument after " ++ curlyQuoted operand) 2
      match Test.holds ⟨true, ← Job.files, call.directory⟩ [operator, operand] with
      | .ok result => return if result then 0 else 1
      | .error problem => Job.fail (testComplaint problem) 2
    | arguments =>
      if arguments.length = 3 && arguments.head? != some "!" && arguments.head? != some "(" &&
          !((arguments[1]?).any fun operator => Test.kind? operator == some .binary ||
            operator == "-a" || operator == "-o" || operator == "==") then
        return ← Job.fail (curlyQuoted (arguments[1]?.getD "") ++ ": binary operator expected") 2
      let arguments := arguments.map fun argument => if argument = "==" then "=" else argument
      match Test.holds ⟨true, ← Job.files, call.directory⟩ arguments with
      | .ok result => return if result then 0 else 1
      | .error problem => Job.fail (testComplaint problem) 2

/-! ## Surroundings -/

/-- Writes the values of variables. -/
def printenv : Job Nat := do
  let call ← read
  if call.arguments.isEmpty then
    Job.put (Raw.ofLines (call.environment.map fun (name, value) => name ++ "=" ++ value))
    return 0
  else
    Job.forEach call.arguments fun name => do
      match call.environment.lookup name with
      | some value =>
        Job.put (value ++ "\n")
        return 0
      | none => return 1

/-- Whether a text is a span of time. -/
def isInterval (text : Raw) : Bool :=
  let (digits, _, rest) := takePointed 10 text.toList
  !digits.isEmpty && ["", "s", "m", "h", "d"].contains (String.ofList rest)

/-- Waits, which takes no time here. -/
def sleep : Job Nat := do
  let arguments := (← read).arguments
  if arguments.isEmpty then Job.misuse "missing operand" 1
  else
    match arguments.find? fun argument => !isInterval argument && argument != "infinity" with
    | none => return 0
    | some bad =>
      match bad.toList with
      | '-' :: c :: _ => Job.misuse ("invalid option -- '" ++ String.singleton c ++ "'") 1
      | _ => Job.misuse ("invalid time interval " ++ curlyQuoted bad) 1

/-- How often a line is written that is to be written again and again. -/
def yesLimit : Nat := 100000

/-- Writes a line again and again. -/
def yes : Job Nat := do
  let arguments := (← read).arguments
  let line := (if arguments.isEmpty then "y" else " ".intercalate arguments) ++ "\n"
  Job.put (String.join (List.replicate yesLimit line))
  return 0

/-- Writes the directory at hand. -/
def pwd : Job Nat := do
  Job.put ("/" ++ "/".intercalate (← read).directory ++ "\n")
  return 0

/-- Writes the name of the system. -/
def uname : Job Nat :=
  Job.withOptions "asnrvmpio" "" [] 1 fun options => do
    match options.others with
    | extra :: _ => Job.misuse ("extra operand " ++ curlyQuoted extra) 1
    | [] =>
      let fields := [('s', "Linux"), ('n', "host"), ('m', "x86_64"), ('o', "GNU/Linux")].filter
          fun (option, _) =>
        options.has option || options.has 'a' || (options.chosen.isEmpty && option == 's')
      Job.put (" ".intercalate (fields.map Prod.snd) ++ "\n")
      return 0

end TenantHost.Rehearsal.Program
