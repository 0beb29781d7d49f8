import TenantHost.Power
import TenantHost.Rehearsal.Files
import TenantHost.Rehearsal.Printing.Number
/-!
# Tests

What `test` and `[` tell of texts, numbers and files. Tests are joined by `-a` and `-o`, negated by
`!` and put in brackets.
-/

namespace TenantHost.Rehearsal.Test

/-- Why a test cannot be decided. -/
inductive Problem where
  | unexpected (argument : Raw)
  | missingOperand (operator : Raw)
  | openBracket
  | noNumber (text : Raw)
  deriving DecidableEq

/-- A kind of operator: one for an operand behind it, one between operands, or a part of the
grammar. -/
inductive Kind where
  | unary
  | binary
  | grammar
  deriving DecidableEq

/-- The kind of an operator, if an argument is one. -/
def kind? (argument : Raw) : Option Kind :=
  if ["-r", "-w", "-x", "-e", "-f", "-d", "-c", "-b", "-p", "-u", "-g", "-k", "-s", "-t", "-z",
    "-n", "-h", "-O",
      "-G", "-L", "-S"].contains argument then some .unary
  else if ["=", "!=", "<", ">", "-eq", "-ne", "-ge", "-gt", "-le", "-lt", "-nt", "-ot",
    "-ef"].contains argument
    then some .binary
  else if ["!", "-a", "-o", "(", ")"].contains argument then some .grammar
  else none

/-- What an argument means where it stands: nothing, an operand, or an operator. -/
inductive Token where
  | none
  | operand
  | operator (symbol : Raw)
  deriving DecidableEq

/-- Whether an operator in front is rather an operand, as what stands behind it tells. -/
def isOperand : List Raw → Bool
  | [] => true
  | [_] => true
  | [_, _] => false
  | _ :: next :: _ => kind? next = some .binary

/-- What the first of some arguments means. -/
def token : List Raw → Token
  | [] => .none
  | argument :: rest =>
    match kind? argument with
    | Option.none => .operand
    | some kind =>
      if (kind = .unary && isOperand (argument :: rest)) || (argument = "(" && rest.isEmpty) then
        .operand
      else .operator argument

/-- What tests look at besides their arguments. Files are of one age here; where `isAbsenceOld` is
set, a missing file is older than all others. -/
structure Surroundings where
  isAbsenceOld : Bool
  files : Files
  directory : Place

/-- Whether something holds of a file. -/
def holdsOfFile (around : Surroundings) (operator path : Raw) : Bool :=
  let follows := operator != "-L" && operator != "-h"
  match around.files.look follows around.directory path with
  | .error _ => false
  | .ok entry =>
    match operator, entry with
    | "-f", .file _ _ => true
    | "-f", .program _ => true
    | "-d", .directory _ => true
    | "-c", .device _ => true
    | "-L", .link _ => true
    | "-h", .link _ => true
    | "-s", .file content _ => content ≠ ""
    | "-s", .device _ => false
    | "-s", _ => true
    | "-x", .directory _ => true
    | "-x", entry => isLaunchMode entry.mode
    | operator, _ => ["-e", "-r", "-w", "-O", "-G"].contains operator

/-- The number that an argument writes. -/
def number (text : Raw) : Except Problem Int :=
  let (negative, digits) := takeSign (text.toList.dropWhile isSpace)
  match takeDigits 10 digits.length digits with
  | ([], _) => .error (.noNumber text)
  | (values, rest) =>
    let n : Int := if negative then -(numberOf 10 values : Nat) else numberOf 10 values
    if (rest.dropWhile isSpace).isEmpty && -twoTo 63 ≤ n && n < twoTo 63 then .ok n
    else .error (.noNumber text)

/-- Whether something holds of an operand. -/
def holdsOfOne (around : Surroundings) (operator operand : Raw) : Except Problem Bool :=
  match operator with
  | "-z" => .ok (operand = "")
  | "-n" => .ok (operand ≠ "")
  | "-t" => (number operand).map fun _ => false
  | operator => .ok (holdsOfFile around operator operand)

/-- Whether something holds between operands. -/
def holdsBetween (around : Surroundings) (left operator right : Raw) : Except Problem Bool :=
  let numbers (relation : Int → Int → Bool) : Except Problem Bool := do
    let a ← number left
    return relation a (← number right)
  let place? (path : Raw) : Option Place :=
    match around.files.locate true around.directory path with
    | .ok place => if (around.files.entryAt? place).isSome then some place else none
    | .error _ => none
  match operator with
  | "=" => .ok (left = right)
  | "!=" => .ok (left ≠ right)
  | "<" => .ok (left < right)
  | ">" => .ok (right < left)
  | "-eq" => numbers (· == ·)
  | "-ne" => numbers (· != ·)
  | "-ge" => numbers fun a b => b ≤ a
  | "-gt" => numbers fun a b => b < a
  | "-le" => numbers fun a b => a ≤ b
  | "-lt" => numbers fun a b => a < b
  | "-nt" => .ok (around.isAbsenceOld && (place? left).isSome && (place? right).isNone)
  | "-ot" => .ok (around.isAbsenceOld && (place? left).isNone && (place? right).isSome)
  | "-ef" => .ok ((place? left).isSome && place? left == place? right)
  | _ => .ok false

/-- A truth value with the arguments from the last one on that was used. -/
abbrev Outcome : Type := Except Problem (Bool × List Raw)

mutual

/-- A test of one or two operands, or in brackets; the number bounds the arguments. -/
def primary (around : Surroundings) : Nat → Token → List Raw → Outcome
  | 0, _, arguments => .ok (false, arguments)
  | _, .none, arguments => .ok (false, arguments)
  | size + 1, .operator "(", _ :: inside =>
    if token inside = .operator ")" then .ok (false, inside)
    else do
      let (result, last) ← disjunction around size (token inside) inside
      if token last.tail = .operator ")" then .ok (result, last.tail) else .error .openBracket
  | _, found, first :: rest =>
    let single : Outcome :=
      match rest with
      | operator :: behind =>
        if token rest = .operator operator ∧ kind? operator = some .binary then
          match behind with
          | right :: _ =>
            (holdsBetween around first operator right).map fun result => (result, behind)
          | [] => .error (.missingOperand operator)
        else .ok (first ≠ "", first :: rest)
      | [] => .ok (first ≠ "", first :: rest)
    match found with
    | .operator symbol =>
      if kind? symbol = some .unary then
        match rest with
        | operand :: _ => (holdsOfOne around symbol operand).map fun result => (result, rest)
        | [] => .error (.missingOperand symbol)
      else single
    | _ => single
  | _, _, [] => .ok (false, [])

/-- A test that may be negated. -/
def negation (around : Surroundings) : Nat → Token → List Raw → Outcome
  | 0, _, arguments => .ok (false, arguments)
  | size + 1, found, arguments =>
    if found = .operator "!" then do
      let next := token arguments.tail
      let behind := if next = .none then arguments else arguments.tail
      let (result, last) ← negation around size next behind
      .ok (!result, last)
    else primary around size found arguments

/-- Tests that have to hold all of them. -/
def conjunction (around : Surroundings) : Nat → Token → List Raw → Outcome
  | 0, _, arguments => .ok (false, arguments)
  | size + 1, found, arguments => do
    let (first, last) ← negation around size found arguments
    if token last.tail = .operator "-a" then
      let behind := last.tail.tail
      let (rest, last) ← conjunction around size (token behind) behind
      .ok (first && rest, last)
    else .ok (first, last)

/-- Tests one of which has to hold. -/
def disjunction (around : Surroundings) : Nat → Token → List Raw → Outcome
  | 0, _, arguments => .ok (false, arguments)
  | size + 1, found, arguments => do
    let (first, last) ← conjunction around size found arguments
    if token last.tail = .operator "-o" then
      let behind := last.tail.tail
      let (rest, last) ← disjunction around size (token behind) behind
      .ok (first || rest, last)
    else .ok (first, last)

end

/-- Whether a test of arguments holds, where the first token is known. -/
def evaluate (around : Surroundings) (found : Token) (arguments : List Raw) :
    Except Problem Bool := do
  let (result, last) ← disjunction around (4 * arguments.length + 8) found arguments
  match last with
  | argument :: _ :: _ => .error (.unexpected argument)
  | _ => .ok result

/-- Whether a test of arguments holds. Few arguments are read by their number first. -/
def holds (around : Surroundings) : List Raw → Except Problem Bool
  | [] => .ok false
  | [a, operator, b] =>
    if kind? operator = some .binary then evaluate around .operand [a, operator, b]
    else if a = "(" ∧ b = ")" then evaluate around (token [operator]) [operator]
    else if a = "!" then (holds around [operator, b]).map (!·)
    else evaluate around (token [a, operator, b]) [a, operator, b]
  | [a, b, c, d] =>
    if a = "(" ∧ d = ")" then evaluate around (token [b, c]) [b, c]
    else if a = "!" then (holds around [b, c, d]).map (!·)
    else evaluate around (token [a, b, c, d]) [a, b, c, d]
  | arguments => evaluate around (token arguments) arguments

end TenantHost.Rehearsal.Test
