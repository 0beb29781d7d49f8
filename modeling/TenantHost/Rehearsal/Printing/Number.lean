import TenantHost.Power
import TenantHost.Rehearsal.Printing.Escape
/-!
# Numbers to print

The numbers that printing programs read from their arguments. Whole numbers have a range; real
numbers are kept to so many binary digits, rounded to the nearest one and to an even one between
two.
-/

namespace TenantHost.Rehearsal

/-- What is wrong with an argument that should be a number. -/
inductive NumberProblem where
  | noNumber
  | restBehind
  | tooGreat

/-- Whether a character may stand in front of a number. -/
def isSpace (c : Char) : Bool :=
  c == ' ' || ('\t' ≤ c && c ≤ '\r')

/-- The sign in front of a text. -/
def takeSign : List Char → Bool × List Char
  | '-' :: rest => (true, rest)
  | '+' :: rest => (false, rest)
  | rest => (false, rest)

/-- Digits at the front of a text with their base: hexadecimal behind `0x`, octal behind a zero. No
number stands there if no digit does. -/
def takeWhole (text : List Char) : Option (Nat × List Char) :=
  let plain (base : Nat) : Option (Nat × List Char) :=
    match takeDigits base text.length text with
    | ([], _) => none
    | (digits, rest) => some (numberOf base digits, rest)
  match text with
  | '0' :: x :: d :: rest =>
    if (x = 'x' ∨ x = 'X') ∧ (takeDigits 16 1 [d]).1.length = 1 then
      let (digits, rest) := takeDigits 16 (d :: rest).length (d :: rest)
      some (numberOf 16 digits, rest)
    else plain 8
  | '0' :: _ => plain 8
  | _ => plain 10

/-- The whole number that an argument writes, and what is wrong with it. One without a sign has a
range up to `2 ^ 64`, where negative numbers count from its end. -/
def readWhole (signed : Bool) (argument : Raw) : Int × Option NumberProblem :=
  let (negative, text) := takeSign (argument.toList.dropWhile isSpace)
  match takeWhole text with
  | none => (0, if argument.isEmpty then none else some .noNumber)
  | some (n, rest) =>
    let behind := if rest.isEmpty then none else some .restBehind
    let tooGreat : Option NumberProblem := some (if rest.isEmpty then .tooGreat else .restBehind)
    if signed then
      if negative then if twoTo 63 < n then (-twoTo 63, tooGreat) else (-n, behind)
      else if twoTo 63 ≤ n then (twoTo 63 - 1, tooGreat)
      else (n, behind)
    else if twoTo 64 ≤ n then (twoTo 64 - 1, tooGreat)
    else if negative then ((-(n : Int)) % twoTo 64, behind)
    else (n, behind)

/-! ## Real numbers -/

/-- A real number: infinite, none at all, or a mantissa times a power of two. -/
inductive Real where
  | infinite (negative : Bool)
  | undefined
  | finite (negative : Bool) (mantissa : Nat) (exponent : Int)

/-- The binary format that reals are kept in: the digits of the mantissa, and the least and greatest
exponent of two that a number may have. -/
structure RealFormat where
  digits : Nat
  least : Int
  greatest : Int

/-- Double precision. -/
def RealFormat.double : RealFormat := ⟨53, -1074, 1023⟩

/-- Extended precision. -/
def RealFormat.extended : RealFormat := ⟨64, -16445, 16383⟩

/-- The quotient rounded to the nearest whole number, to an even one between two. -/
def roundedQuotient (n d : Nat) : Nat :=
  let quotient := n / d
  let twice := 2 * (n % d)
  if twice > d ∨ (twice = d ∧ quotient % 2 = 1) then quotient + 1 else quotient

/-- The quotient of whole numbers in a format, and whether it is out of its range. -/
def RealFormat.round (format : RealFormat) (negative : Bool) (n d : Nat) : Real × Bool :=
  if n = 0 then (.finite negative 0 0, false)
  else
    let guess : Int := (Nat.log2 n : Int) - Nat.log2 d
    let isBelow : Bool :=
      if guess ≥ 0 then n < d * twoTo guess.toNat else n * twoTo (-guess).toNat < d
    let magnitude := if isBelow then guess - 1 else guess
    let exponent := max format.least (magnitude - (format.digits - 1 : Nat))
    let mantissa :=
      if exponent ≥ 0 then roundedQuotient n (d * twoTo exponent.toNat)
      else roundedQuotient (n * twoTo (-exponent).toNat) d
    if magnitude > format.greatest ∨
      (mantissa ≥ twoTo format.digits ∧ magnitude = format.greatest) then
      (.infinite negative, true)
    else (.finite negative mantissa exponent, magnitude < format.least + (format.digits - 1 : Nat))

/-- A scale that no format reaches. -/
def scaleLimit : Nat := 20000

/-- A number of digits times a power of a base, in a format. -/
def RealFormat.scaled (format : RealFormat) (negative : Bool) (n base : Nat) (power : Int) :
    Real × Bool :=
  if n = 0 then (.finite negative 0 0, false)
  else if power > scaleLimit then (.infinite negative, true)
  else if power < -(scaleLimit + 4 * Nat.log2 n : Nat) then (.finite negative 0 0, true)
  else if power ≥ 0 then format.round negative (n * Nat.pow base power.toNat) 1
  else format.round negative n (Nat.pow base (-power).toNat)

/-- An exponent behind a letter, and the rest; without digits there is none. -/
def takeExponent (letter : Char) (text : List Char) : Int × List Char :=
  match text with
  | c :: rest =>
    if c.toLower = letter then
      let (negative, digits) := takeSign rest
      match takeDigits 10 digits.length digits with
      | ([], _) => (0, text)
      | (values, rest) =>
        let n := if values.length > 9 then scaleLimit * scaleLimit else numberOf 10 values
        (if negative then -n else n, rest)
    else (0, text)
  | [] => (0, [])

/-- Digits of a base with a point among them: all of them, the number of those behind the point, and
the rest. -/
def takePointed (base : Nat) (text : List Char) : List Nat × Nat × List Char :=
  let (whole, rest) := takeDigits base text.length text
  match rest with
  | '.' :: behind =>
    let (part, rest') := takeDigits base behind.length behind
    if whole.isEmpty && part.isEmpty then ([], 0, text) else (whole ++ part, part.length, rest')
  | rest => (whole, 0, rest)

/-- A word that stands for a real number, at the front of a text. -/
def takeRealWord (negative : Bool) (text : List Char) : Option (Real × List Char) :=
  let begins (word : String) : Bool := text.length ≥ word.length &&
    (text.take word.length).map Char.toLower == word.toList
  if begins "infinity" then some (.infinite negative, text.drop 8)
  else if begins "inf" then some (.infinite negative, text.drop 3)
  else if begins "nan" then some (.undefined, text.drop 3)
  else none

/-- The real number at the front of a text without a sign. -/
def RealFormat.take (format : RealFormat) (negative : Bool) (text : List Char) :
    Option ((Real × Bool) × List Char) :=
  match takeRealWord negative text with
  | some (real, rest) => some ((real, false), rest)
  | none =>
    let decimal : Option ((Real × Bool) × List Char) :=
      match takePointed 10 text with
      | ([], _, _) => none
      | (digits, behind, rest) =>
        let (exponent, rest) := takeExponent 'e' rest
        some (format.scaled negative (numberOf 10 digits) 10 (exponent - behind), rest)
    match text with
    | '0' :: x :: rest =>
      if x = 'x' ∨ x = 'X' then
        match takePointed 16 rest with
        | ([], _, _) => decimal
        | (digits, behind, rest) =>
          let (exponent, rest) := takeExponent 'p' rest
          some (format.scaled negative (numberOf 16 digits) 2 (exponent - 4 * behind), rest)
      else decimal
    | _ => decimal

/-- The real number that an argument writes, and what is wrong with it. -/
def RealFormat.read (format : RealFormat) (argument : Raw) : Real × Option NumberProblem :=
  let (negative, text) := takeSign (argument.toList.dropWhile isSpace)
  match format.take negative text with
  | none => (.finite false 0 0, if argument.isEmpty then none else some .noNumber)
  | some ((real, outOfRange), rest) =>
    (real, if !rest.isEmpty then some .restBehind else if outOfRange then some .tooGreat else none)

/-! ## Digits of real numbers -/

/-- A finite number in tenths to a power, rounded to a whole number. -/
def tenths (mantissa : Nat) (exponent : Int) (power : Int) : Nat :=
  let n := mantissa * (if exponent ≥ 0 then twoTo exponent.toNat else 1) *
    (if power ≥ 0 then tenTo power.toNat else 1)
  let d := (if exponent < 0 then twoTo (-exponent).toNat else 1) *
    (if power < 0 then tenTo (-power).toNat else 1)
  roundedQuotient n d

/-- The digits of a whole number with so many of them behind a point. -/
def pointed (n behind : Nat) (always : Bool) : List Char :=
  let digits := Nat.toDigits 10 n
  let digits := List.replicate (behind + 1 - digits.length) '0' ++ digits
  let whole := digits.take (digits.length - behind)
  if behind = 0 then (if always then whole ++ ['.'] else whole)
  else whole ++ '.' :: digits.drop whole.length

/-- The decimal exponent of a number that has so many digits in front, and these digits as a whole
number. -/
def leadingDigits (mantissa : Nat) (exponent : Int) (count : Nat) : Int × Nat :=
  if mantissa = 0 then (0, 0)
  else
    let guess : Int := ((Nat.log2 mantissa : Int) + exponent) * 1233 / 4096
    let candidates := [guess - 1, guess, guess + 1, guess + 2].map fun power =>
      (power, tenths mantissa exponent (count - 1 - power))
    (candidates.find? fun candidate => candidate.2 < tenTo count).getD (guess, 0)

/-- An exponent in decimal digits. -/
def exponentText (letter : Char) (exponent : Int) (least : Nat) : List Char :=
  let digits := Nat.toDigits 10 exponent.natAbs
  letter :: (if exponent < 0 then '-' else '+') :: List.replicate (least - digits.length)
    '0' ++ digits

/-- The digits of a number with an exponent. -/
def scientific (letter : Char) (power : Int) (n behind : Nat) (always : Bool) : List Char :=
  pointed n behind always ++ exponentText letter power 2

/-- Digits behind a point without the zeros at their end. -/
def withoutZeros (text : List Char) : List Char :=
  if text.contains '.' then
    let short := (text.reverse.dropWhile (· == '0')).reverse
    if short.getLast? = some '.' then short.dropLast else short
  else text

/-- The digits of a number in the form that suits its size. -/
def general (letter : Char) (mantissa : Nat) (exponent : Int) (precision : Nat) (all : Bool) :
    List Char :=
  let count := max precision 1
  let (power, n) := leadingDigits mantissa exponent count
  let trim (text : List Char) : List Char := if all then text else withoutZeros text
  if power < -4 ∨ (count : Int) ≤ power then
    trim (pointed n (count - 1) all) ++ exponentText (if letter = 'g' then 'e' else 'E') power 2
  else
    let behind := ((count : Int) - 1 - power).toNat
    trim (pointed (tenths mantissa exponent behind) behind all)

/-- The hexadecimal digits of a number of a format. -/
def RealFormat.hexadecimal (format : RealFormat) (mantissa : Nat) (exponent : Int)
    (precision : Option Nat) (always : Bool) : List Char :=
  let lead := if format.digits % 4 = 0 then 4 else 1
  let size := Nat.log2 mantissa + 1
  let digits := (format.digits - lead) / 4
  let full := if mantissa = 0 then 0 else mantissa * twoTo (format.digits - size)
  let power : Int := if mantissa = 0 then 0 else exponent + (size : Int) - lead
  let (n, behind) :=
    match precision with
    | some precision =>
      if precision < digits then
        (roundedQuotient full (twoTo (4 * (digits - precision))), precision)
      else (full * twoTo (4 * (precision - digits)), precision)
    | none => (full, digits)
  let text := Nat.toDigits 16 n
  let text := List.replicate (behind + 1 - text.length) '0' ++ text
  let whole := text.take (text.length - behind)
  let part := text.drop whole.length
  let part := if precision.isNone then (part.reverse.dropWhile (· == '0')).reverse else part
  whole ++ (if part.isEmpty && !always then [] else '.' :: part) ++ exponentText 'p' power 1

end TenantHost.Rehearsal
