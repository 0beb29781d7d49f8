import TenantHost.Double.Basic
/-!
# The shortest decimal of a double

Every magnitude is a whole number of units of `10 ^ -1074`, as `2 ^ -1074 = 5 ^ 1074 · 10 ^ -1074`.
The shortest decimal of a double is a multiple of the greatest power of ten that has a multiple
reading back as that double; of the two neighbours of the double among these multiples it is the
nearer one. The unit itself always reads back, so the search ends there at the latest.
-/

namespace TenantHost.Double

/-- How many units of `10 ^ -1074` make one of `2 ^ -1074`. -/
def fivePower : Nat := fiveTo 1074

/-- The magnitude of a rank in units of `10 ^ -1074`. -/
def decimalUnits (rank : Nat) : Nat :=
  magnitude rank * fivePower

/-- The rank nearest to a decimal in units of `10 ^ -1074`. -/
def rankOfDecimal (units : Nat) : Nat :=
  nearestRank units fivePower

/-- Of the two neighbours of `exact` among the multiples of `step`, the nearer one that reads back
as `rank`; an even multiple wins a tie. -/
def neighbour? (rank exact step : Nat) : Option Nat :=
  let count := exact / step
  let below := count * step
  let above := below + step
  let aboveIsBetter :=
    above - exact < exact - below ∨ above - exact = exact - below ∧ count % 2 = 1
  if rankOfDecimal below = rank then
    if rankOfDecimal above = rank ∧ aboveIsBetter then some above else some below
  else if rankOfDecimal above = rank then some above
  else none

/-- Tries the powers of ten downwards from one; the unit needs no search. -/
def shortestFrom (rank exact : Nat) : Nat → Nat
  | 0 => exact
  | power + 1 => (neighbour? rank exact (tenTo (power + 1))).getD (shortestFrom rank exact power)

/-- The number of decimal digits. -/
def digitCount (n : Nat) : Nat :=
  (Nat.toDigits 10 n).length

/-- The shortest decimal of a rank, in units of `10 ^ -1074`. -/
def shortest (rank : Nat) : Nat :=
  let exact := decimalUnits rank
  shortestFrom rank exact (digitCount exact - 1)

end TenantHost.Double
