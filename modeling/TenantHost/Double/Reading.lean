import TenantHost.Double.Basic
import TenantHost.Text.Blank
import TenantHost.Text.DecimalDigit
/-!
# Reading a double

A decimal is read exactly and rounded once. The written form is a sign, digits with at most one
point, and a power of ten; or `inf`, `infinity` or `nan` in any case. Digits may be of any script,
and an underscore may stand between two of them. Blanks around the number do not count, apart from
the four separator controls, which are no blanks here.
-/

namespace TenantHost.Double

/-- The double nearest to `digits * 10 ^ exponent`. Amounts that are certain to lie beyond the
finite doubles, or below half the least one, are not computed. -/
def ofDecimal (negative : Bool) (digits : Nat) (exponent : Int) : Double :=
  let size : Int := (Nat.repr digits).length + exponent
  if digits = 0 ∨ size < -330 then signedZero negative
  else if 310 < size then .infinity negative
  else if 0 ≤ exponent then ofRatio negative (digits * tenTo exponent.toNat) 1
  else ofRatio negative digits (tenTo (-exponent).toNat)

/-- Whether a character is blank around a number. -/
def isPadding (c : Char) : Bool :=
  Text.isBlank c && !(0x1C ≤ c.toNat && c.toNat ≤ 0x1F)

/-- The ASCII digit with the value of a digit of any script; other characters stay. -/
def plainDigit (c : Char) : Char :=
  match Text.digitValue? c with
  | some value => Nat.digitChar value
  | none => c

/-- Drops the underscores that stand between two digits; any other one is refused. -/
def dropUnderscores : Option Char → List Char → Option (List Char)
  | _, [] => some []
  | previous, '_' :: rest =>
    if previous.any Char.isDigit && rest.head?.any Char.isDigit then dropUnderscores (some '_') rest
    else none
  | _, c :: rest => (dropUnderscores (some c) rest).map (c :: ·)

/-- The leading ASCII digits and the rest. -/
def spanDigits (text : List Char) : List Char × List Char :=
  (text.takeWhile Char.isDigit, text.dropWhile Char.isDigit)

/-- The number that a row of ASCII digits writes. -/
def digitsValue (digits : List Char) : Nat :=
  digits.foldl (fun n c => 10 * n + (c.toNat - '0'.toNat)) 0

/-- A sign, if there is one, and the rest. -/
def spanSign : List Char → Bool × List Char
  | '-' :: rest => (true, rest)
  | '+' :: rest => (false, rest)
  | text => (false, text)

/-- The power of ten at the end of a number, `0` if there is none. -/
def readExponent : List Char → Option Int
  | [] => some 0
  | c :: rest =>
    if c = 'e' ∨ c = 'E' then
      let (negative, rest) := spanSign rest
      let (digits, after) := spanDigits rest
      if digits.isEmpty || !after.isEmpty then none else some (signed negative (digitsValue digits))
    else none

/-- A number without sign: digits with at most one point, then a power of ten. -/
def readMagnitude (negative : Bool) (text : List Char) : Option Double :=
  let (whole, rest) := spanDigits text
  let (fraction, rest) :=
    match rest with
    | '.' :: rest => spanDigits rest
    | rest => ([], rest)
  if whole.isEmpty && fraction.isEmpty then none
  else (readExponent rest).map fun exponent =>
    ofDecimal negative (digitsValue (whole ++ fraction)) (exponent - fraction.length)

/-- The double that a text writes, if it writes one. -/
def ofText? (text : List Char) : Option Double :=
  let padded := text.map plainDigit
  let bare := ((padded.dropWhile isPadding).reverse.dropWhile isPadding).reverse
  let (negative, unsigned) := spanSign bare
  let name := unsigned.map Char.toLower
  if name = ['i', 'n', 'f'] ∨ name = ['i', 'n', 'f', 'i', 'n', 'i', 't', 'y'] then
    some (.infinity negative)
  else if name = ['n', 'a', 'n'] then some .nan
  else (dropUnderscores none unsigned).bind (readMagnitude negative)

end TenantHost.Double
