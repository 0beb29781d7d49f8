import TenantHost.Rehearsal.Files
import TenantHost.Rehearsal.Printing.Number
/-!
# Permissions

The mode of a file is a digit for each kind of account, and each digit tells whether the file may be
read, written and launched. A mode is written as a number, or as clauses that change one: `u+x` lets
the owner launch a file, and `go=u` gives all others what the owner has.
-/

namespace TenantHost.Rehearsal.Permissions

/-- The kinds of accounts, as the scales of their digits. -/
def scales : List (Char × Nat) :=
  [('u', 64), ('g', 8), ('o', 1)]

/-- The digit of a mode at a scale. -/
def digit (mode scale : Nat) : Nat :=
  mode / scale % 8

/-- A mode with another digit at a scale. -/
def withDigit (mode scale next : Nat) : Nat :=
  mode - digit mode scale * scale + next * scale

/-- The permissions that letters stand for; letters of accounts stand for what these have. -/
def granted (mode : Nat) (isLaunched : Bool) (letters : List Char) : Nat :=
  let copied := (scales.filter fun (letter, _) => letters.contains letter).map
      fun (_, scale) => digit mode scale
  copied.foldl (· ||| ·) <|
    (if letters.contains 'r' then 4 else 0) + (if letters.contains 'w' then 2 else 0) +
      (if letters.contains 'x' || (letters.contains 'X' && isLaunched) then 1 else 0)

/-- A digit changed by an operator: added to, taken from, or set. -/
def changedDigit (symbol : Char) (now given : Nat) : Nat :=
  match symbol with
  | '+' => now ||| given
  | '-' => now - (now &&& given)
  | _ => given

/-- A mode changed by the operators of a clause for some kinds of accounts; the first number bounds
them. -/
def afterOperators (accounts : List Nat) (isDirectory : Bool) :
    Nat → Nat → List Char → Option Nat
  | 0, _, _ => none
  | _, mode, [] => some mode
  | size + 1, mode, symbol :: rest =>
    if symbol = '+' ∨ symbol = '-' ∨ symbol = '=' then
      let letters := rest.takeWhile "rwxXstugo".toList.contains
      let given := granted mode (isDirectory || isLaunchMode mode) letters
      let next := accounts.foldl (fun next scale =>
        withDigit next scale (changedDigit symbol (digit next scale) given)) mode
      afterOperators accounts isDirectory size next (rest.drop letters.length)
    else none

/-- A mode changed by a clause. A clause that names no accounts is about all of them. -/
def afterClause (mode : Nat) (isDirectory : Bool) (clause : List Char) : Option Nat :=
  let who := clause.takeWhile "ugoa".toList.contains
  let isAll := who.isEmpty || who.contains 'a'
  let accounts := (scales.filter fun (letter, _) => isAll || who.contains letter).map Prod.snd
  match clause.drop who.length with
  | [] => none
  | operators => afterOperators accounts isDirectory (operators.length + 1) mode operators

/-- A mode changed by clauses. -/
def afterClauses (mode : Nat) (isDirectory : Bool) (text : Raw) : Option Nat :=
  (Text.fields (· == ',') text.toList).foldl
    (fun mode clause => mode.bind fun mode => afterClause mode isDirectory clause) (some mode)

/-- A mode changed as a text tells: to a number, or by clauses. -/
def changed (mode : Nat) (isDirectory : Bool) (text : Raw) : Option Nat :=
  match takeDigits 8 text.length text.toList with
  | (d :: digits, []) => some (numberOf 8 (d :: digits) % 4096)
  | _ => afterClauses mode isDirectory text

/-- The letters of a digit. -/
def letters (digit : Nat) : Raw :=
  (if digit / 4 % 2 = 1 then "r" else "") ++ (if digit / 2 % 2 = 1 then "w" else "") ++
    (if digit % 2 = 1 then "x" else "")

end TenantHost.Rehearsal.Permissions
