import TenantHost.Power
import TenantHost.Rehearsal.Printing.Number
import TenantHost.Rehearsal.Shell.Syntax
/-!
# Arithmetic

The arithmetic of scripts: whole numbers of sixty-four bits with a sign, variables, and the usual
operators, each of which binds its operands as tightly as its rank tells.
-/

namespace TenantHost.Rehearsal.Shell

/-- A piece of an expression. -/
inductive Piece where
  | number (n : Int)
  | variable (name : Raw)
  | operator (symbol : String)
  | unknown
  deriving DecidableEq

/-- An expression. An assignment may combine the old value with the new one by an operator. -/
inductive Expression where
  | number (n : Int)
  | variable (name : Raw)
  | unary (symbol : String) (operand : Expression)
  | binary (symbol : String) (left right : Expression)
  | both (left right : Expression)
  | either (left right : Expression)
  | choice (test yes no : Expression)
  | assign (name : Raw) (symbol : String) (value : Expression)

/-- Why an expression has no value. -/
inductive ArithmeticProblem where
  | expected (what : String)
  | divisionByZero
  | noNumber (text : Raw)
  deriving DecidableEq

/-- The wording of a problem with an expression, as it was written. -/
def ArithmeticProblem.wording (written : Raw) : ArithmeticProblem → Raw
  | .expected what => "arithmetic expression: expecting " ++ what ++ ": \"" ++ written ++ "\""
  | .divisionByZero => "arithmetic expression: division by zero: \"" ++ written ++ "\""
  | .noNumber text => "Illegal number: " ++ text

/-- A whole number brought into the range of sixty-four bits. -/
def wrapped (n : Int) : Int :=
  let residue := n % twoTo 64
  if residue < twoTo 63 then residue else residue - twoTo 64

/-! ## Reading expressions -/

/-- The operators, those first that begin with shorter ones. -/
def operators : List String :=
  ["<<=", ">>=", "<<", ">>", "<=", ">=", "==", "!=", "&&", "||", "+=", "-=", "*=", "/=", "%=", "&=",
    "^=", "|=",
    "<", ">", "=", "!", "~", "+", "-", "*", "/", "%", "&", "^", "|", "(", ")", "?", ":"]

/-- The number at the front of a text, no greater than the greatest one. -/
def takeNumber (text : List Char) : Int × List Char :=
  match takeWhole text with
  | some (n, rest) => (min n (twoTo 63 - 1 : Nat), rest)
  | none => (0, text)

/-- The pieces of an expression; the first number bounds the length of its text. -/
def piecesFrom : Nat → List Char → List Piece
  | 0, _ => []
  | _, [] => []
  | size + 1, c :: rest =>
    if c = ' ' ∨ c = '\t' ∨ c = '\n' then piecesFrom size rest
    else if c.isDigit then
      let (n, behind) := takeNumber (c :: rest)
      .number n :: piecesFrom size behind
    else if isNameStart c then
      let name := (c :: rest).takeWhile isNameChar
      .variable (String.ofList name) :: piecesFrom size ((c :: rest).drop name.length)
    else
      match operators.find? fun symbol => symbol.toList.isPrefixOf (c :: rest) with
      | some symbol => .operator symbol :: piecesFrom size ((c :: rest).drop symbol.length)
      | none => [.unknown]

/-- How tightly an operator binds, the least number the tightest. -/
def rank? (symbol : String) : Option Nat :=
  [("*", 0), ("/", 0), ("%", 0), ("+", 1), ("-", 1), ("<<", 2), (">>", 2), ("<", 3), ("<=", 3),
    (">", 3), (">=", 3),
    ("==", 4), ("!=", 4), ("&", 5), ("^", 6), ("|", 7)].lookup symbol

/-- The least tight rank. -/
def loosestRank : Nat := 7

/-- The operators that assign, with those that they combine by. -/
def assignments : List (String × String) :=
  [("=", ""), ("+=", "+"), ("-=", "-"), ("*=", "*"), ("/=", "/"), ("%=", "%"), ("&=", "&"),
    ("^=", "^"), ("|=", "|"),
    ("<<=", "<<"), (">>=", ">>")]

/-- What is read of an expression, and the pieces behind it. -/
abbrev Parsed : Type := Except ArithmeticProblem (Expression × List Piece)

/-- Reads an operand; `whole` reads what stands in brackets. -/
def operand (whole : List Piece → Parsed) : List Piece → Parsed
  | .number n :: rest => .ok (.number n, rest)
  | .variable name :: rest => .ok (.variable name, rest)
  | .operator symbol :: rest =>
    if symbol = "(" then do
      match ← whole rest with
      | (inside, .operator ")" :: rest) => .ok (inside, rest)
      | _ => .error (.expected "')'")
    else if symbol = "+" then operand whole rest
    else if symbol = "-" ∨ symbol = "!" ∨ symbol = "~" then
      (operand whole rest).map fun (inside, rest) => (.unary symbol inside, rest)
    else .error (.expected "primary")
  | _ => .error (.expected "primary")

/-- Goes on with operators of a rank behind a left operand; the number bounds them. -/
def chainFrom (next : List Piece → Parsed) (rank : Nat) :
    Nat → Expression → List Piece → Parsed
  | 0, left, pieces => .ok (left, pieces)
  | size + 1, left, pieces =>
    match pieces with
    | .operator symbol :: rest =>
      if rank? symbol = some rank then do
        let (right, rest) ← next rest
        chainFrom next rank size (.binary symbol left right) rest
      else .ok (left, pieces)
    | _ => .ok (left, pieces)

/-- Reads operands with operators between them that bind at least as tightly as so many ranks
tell. -/
def chain (whole : List Piece → Parsed) : Nat → List Piece → Parsed
  | 0, pieces => operand whole pieces
  | rank + 1, pieces => do
    let (first, rest) ← chain whole rank pieces
    chainFrom (chain whole rank) rank rest.length first rest

/-- Reads what is joined by `&&`; the number bounds how often. -/
def conjunction (whole : List Piece → Parsed) : Nat → List Piece → Parsed
  | 0, _ => .error (.expected "primary")
  | size + 1, pieces => do
    let (left, rest) ← chain whole (loosestRank + 1) pieces
    match rest with
    | .operator "&&" :: rest =>
      let (right, rest) ← conjunction whole size rest
      .ok (.both left right, rest)
    | rest => .ok (left, rest)

/-- Reads what is joined by `||`; the number bounds how often. -/
def disjunction (whole : List Piece → Parsed) : Nat → List Piece → Parsed
  | 0, _ => .error (.expected "primary")
  | size + 1, pieces => do
    let (left, rest) ← conjunction whole (pieces.length + 1) pieces
    match rest with
    | .operator "||" :: rest =>
      let (right, rest) ← disjunction whole size rest
      .ok (.either left right, rest)
    | rest => .ok (left, rest)

/-- Reads an expression; the number bounds how deep it goes. -/
def expression : Nat → List Piece → Parsed
  | 0, _ => .error (.expected "primary")
  | size + 1, pieces =>
    let choice : Parsed := do
      let (test, rest) ← disjunction (expression size) (pieces.length + 1) pieces
      match rest with
      | .operator "?" :: rest =>
        let (yes, rest) ← expression size rest
        match rest with
        | .operator ":" :: rest =>
          let (no, rest) ← expression size rest
          .ok (.choice test yes no, rest)
        | _ => .error (.expected "':'")
      | rest => .ok (test, rest)
    match pieces with
    | .variable name :: .operator symbol :: rest =>
      match assignments.lookup symbol with
      | some symbol =>
        (expression size rest).map fun (value, rest) => (.assign name symbol value, rest)
      | none => choice
    | _ => choice

/-- Reads an expression as a whole. -/
def readExpression (text : List Char) : Except ArithmeticProblem Expression :=
  let pieces := piecesFrom text.length text
  match expression (pieces.length + 1) pieces with
  | .ok (found, []) => .ok found
  | .ok (_, _ :: _) => .error (.expected "EOF")
  | .error problem => .error problem

/-! ## Values -/

/-- The number of a truth value. -/
def truth (b : Bool) : Int :=
  if b then 1 else 0

/-- A number by a bit pattern of sixty-four bits. -/
def onBits (f : Nat → Nat → Nat) (a b : Int) : Int :=
  wrapped (f (a % twoTo 64).toNat (b % twoTo 64).toNat)

/-- The value of an operator. -/
def operate (symbol : String) (a b : Int) : Except ArithmeticProblem Int :=
  match symbol with
  | "*" => .ok (wrapped (a * b))
  | "/" => if b = 0 then .error .divisionByZero else .ok (wrapped (Int.tdiv a b))
  | "%" => if b = 0 then .error .divisionByZero else .ok (wrapped (Int.tmod a b))
  | "+" => .ok (wrapped (a + b))
  | "-" => .ok (wrapped (a - b))
  | "<<" => .ok (wrapped (a * twoTo (b % 64).toNat))
  | ">>" => .ok (a / twoTo (b % 64).toNat)
  | "<" => .ok (truth (a < b))
  | "<=" => .ok (truth (a ≤ b))
  | ">" => .ok (truth (b < a))
  | ">=" => .ok (truth (b ≤ a))
  | "==" => .ok (truth (a = b))
  | "!=" => .ok (truth (a ≠ b))
  | "&" => .ok (onBits (· &&& ·) a b)
  | "^" => .ok (onBits (· ^^^ ·) a b)
  | "|" => .ok (onBits (· ||| ·) a b)
  | _ => .ok b

/-- The number that the value of a variable writes; blanks may stand around it. -/
def numberOfText (text : Raw) : Except ArithmeticProblem Int :=
  let (negative, digits) := takeSign (text.toList.dropWhile isSpace)
  let (n, rest) : Int × List Char :=
    match takeWhole digits with
    | some (n, rest) => (if negative then -n else n, rest)
    | none => (0, text.toList.dropWhile isSpace)
  if !(rest.dropWhile isSpace).isEmpty then .error (.noNumber text)
  else if n < -twoTo 63 ∨ (twoTo 63 : Int) ≤ n then .error (.noNumber text)
  else .ok n

/-- What was assigned so far, the last first, in front of the values from outside. -/
abbrev Assigned : Type := List (Raw × Int)

/-- The value of an expression, and what it assigns. -/
def Expression.value (outside : Raw → Option Raw) :
    Expression → Assigned → Except ArithmeticProblem (Int × Assigned)
  | .number n, assigned => .ok (n, assigned)
  | .variable name, assigned => do
    match assigned.lookup name with
    | some n => .ok (n, assigned)
    | none => .ok (← numberOfText ((outside name).getD ""), assigned)
  | .unary symbol operand, assigned => do
    let (n, assigned) ← operand.value outside assigned
    let result :=
      match symbol with
      | "-" => wrapped (-n)
      | "!" => truth (n = 0)
      | _ => -n - 1
    .ok (result, assigned)
  | .binary symbol left right, assigned => do
    let (a, assigned) ← left.value outside assigned
    let (b, assigned) ← right.value outside assigned
    .ok (← operate symbol a b, assigned)
  | .both left right, assigned => do
    let (a, assigned) ← left.value outside assigned
    if a = 0 then .ok (0, assigned)
    else
      let (b, assigned) ← right.value outside assigned
      .ok (truth (b ≠ 0), assigned)
  | .either left right, assigned => do
    let (a, assigned) ← left.value outside assigned
    if a ≠ 0 then .ok (1, assigned)
    else
      let (b, assigned) ← right.value outside assigned
      .ok (truth (b ≠ 0), assigned)
  | .choice test yes no, assigned => do
    let (a, assigned) ← test.value outside assigned
    if a ≠ 0 then yes.value outside assigned else no.value outside assigned
  | .assign name symbol value, assigned => do
    let (b, assigned) ← value.value outside assigned
    if symbol = "" then .ok (b, (name, b) :: assigned)
    else
      let a ←
        match assigned.lookup name with
        | some n => pure n
        | none => numberOfText ((outside name).getD "")
      let n ← operate symbol a b
      .ok (n, (name, n) :: assigned)

/-- The value of a written expression, and what it assigns, the first first. -/
def arithmetic (outside : Raw → Option Raw) (text : Raw) :
    Except ArithmeticProblem (Int × Assigned) := do
  let found ← readExpression text.toList
  (found.value outside []).map fun (n, assigned) => (n, assigned.reverse)

end TenantHost.Rehearsal.Shell
