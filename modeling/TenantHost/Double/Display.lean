import TenantHost.Double.Shortest
/-!
# The text of a double

The digits of the shortest decimal, with a point in place when the decimal exponent is from -4 to
15, and with a power of ten of at least two digits otherwise. A whole number keeps a `.0`, zero its
sign.
-/

namespace TenantHost.Double

/-- The significant digits of a decimal, without zeros at the end, and its decimal exponent: the
digits with a point after the first one, times that power of ten. -/
def significant (units : Nat) : List Char × Int :=
  let digits := (Nat.repr units).toList
  ((digits.reverse.dropWhile (· == '0')).reverse, (digits.length : Int) - 1075)

/-- Digits with a point after the first `whole` of them, zeros filling up what is missing. -/
def pointed (digits : List Char) (whole : Nat) : List Char :=
  let fraction := digits.drop whole
  digits.take whole ++ List.replicate (whole - digits.length) '0' ++ '.' ::
    (if fraction.isEmpty then ['0'] else fraction)

/-- A power of ten: its sign and at least two digits. -/
def exponentText (exponent : Int) : List Char :=
  let digits := (Nat.repr exponent.natAbs).toList
  'e' :: (if exponent < 0 then '-' else '+') :: List.replicate (2 - digits.length) '0' ++ digits

/-- The layout of a positive decimal. -/
def layout (digits : List Char) (exponent : Int) : List Char :=
  if 0 ≤ exponent ∧ exponent < 16 then pointed digits (exponent.toNat + 1)
  else if -4 ≤ exponent ∧ exponent < 0 then
    '0' :: '.' :: List.replicate (-exponent - 1).toNat '0' ++ digits
  else
    let fraction := digits.drop 1
    digits.take 1 ++ (if fraction.isEmpty then [] else '.' :: fraction) ++ exponentText exponent

/-- The text of a double. -/
def text : Double → String
  | .nan => "nan"
  | .infinity negative => if negative then "-inf" else "inf"
  | .finite negative rank =>
    let magnitudeText :=
      if rank.val = 0 then ['0', '.', '0']
      else
        let (digits, exponent) := significant (shortest rank)
        layout digits exponent
    String.ofList (if negative then '-' :: magnitudeText else magnitudeText)

end TenantHost.Double
