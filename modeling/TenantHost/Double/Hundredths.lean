import TenantHost.Double.Shortest
/-!
# Rounding to hundredths

The decimal that a number is written with is rounded to two places, a half away from zero, and the
result is the double nearest to that decimal. Rounding works on decimals of at most twenty-eight
digits: from `10 ^ 26` on, and for infinities, it is refused.
-/

namespace TenantHost.Double

/-- The number of hundredths nearest to a decimal in units of `10 ^ -1074`; a half is rounded up. -/
def hundredths (units : Nat) : Nat :=
  (units + 5 * tenTo 1071) / tenTo 1072

/-- The least number of hundredths that has more than twenty-eight digits. -/
def hundredthsLimit : Nat := tenTo 28

/-- The double nearest to a number of hundredths, unless that has too many digits. -/
def ofHundredths? (negative : Bool) (count : Nat) : Option Double :=
  if count < hundredthsLimit then some (ofRank negative (rankOfDecimal (count * tenTo 1072)))
  else none

/-- A double rounded to hundredths; `none` where that is refused. -/
def roundHundredths? : Double → Option Double
  | .nan => some .nan
  | .infinity _ => none
  | .finite negative rank => ofHundredths? negative (hundredths (shortest rank))

end TenantHost.Double
