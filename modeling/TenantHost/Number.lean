import TenantHost.Double.Display
import TenantHost.Double.Hundredths
/-!
# Integers and doubles together

A reading or a threshold is an integer of any size or a double. Integers are compared with doubles
exactly, and the quotient of two integers is rounded once; where an integer has to become a double
first, it may be too large.
-/

namespace TenantHost

/-- An integer of any size or a double. -/
inductive Number where
  | int (n : Int)
  | real (d : Double)
  deriving DecidableEq

/-- Why an amount cannot be a double. -/
inductive Overflow where
  | conversion
  | quotient
  deriving DecidableEq, Repr

/-- The wording of an overflow. -/
def Overflow.message : Overflow → String
  | .conversion => "int too large to convert to float"
  | .quotient => "integer division result too large for a float"

namespace Number

/-- The greatest number of digits of an integer that is read or shown. -/
def digitLimit : Nat := 4300

/-- Whether an integer has few enough digits to be shown. -/
def isShowableInt (n : Int) : Bool :=
  n.natAbs < tenTo digitLimit

/-- Whether a number can be shown. -/
def isShowable : Number → Bool
  | .int n => isShowableInt n
  | .real _ => true

/-- How a number is shown: an integer without a point, a double never without point or exponent. -/
def text : Number → String
  | .int n => toString n
  | .real d => d.text

/-- Where a number stands; NaN stands nowhere. -/
def place? : Number → Option Double.Place
  | .int n => some (.units (n * twoTo 1074))
  | .real d => d.place?

/-- Whether one number is less than another; never with NaN. -/
def less (a b : Number) : Bool :=
  match a.place?, b.place? with
  | some p, some q => p.before q
  | _, _ => false

/-- Whether one number is at most another; never with NaN. -/
def atMost (a b : Number) : Bool :=
  match a.place?, b.place? with
  | some p, some q => !q.before p
  | _, _ => false

/-- A result that has to be finite. -/
def within (limit : Overflow) (d : Double) : Except Overflow Double :=
  if d.isFinite then .ok d else .error limit

/-- The double nearest to a number. -/
def toDouble : Number → Except Overflow Double
  | .int n => within .conversion (Double.ofInt n)
  | .real d => .ok d

/-- Whether a number is neither NaN nor infinite; asked of its double. -/
def isFinite (a : Number) : Except Overflow Bool := do
  return (← a.toDouble).isFinite

/-- The difference: exact for integers, rounded once otherwise. -/
def sub : Number → Number → Except Overflow Number
  | .int a, .int b => .ok (.int (a - b))
  | a, b => do return .real ((← a.toDouble).sub (← b.toDouble))

/-- The quotient by a number other than zero, rounded once. -/
def div : Number → Number → Except Overflow Double
  | .int a, .int b => within .quotient (Double.ofRatio ((a < 0) != (b < 0)) a.natAbs b.natAbs)
  | a, b => do return (← a.toDouble).div (← b.toDouble)

/-- A number rounded to hundredths, a half away from zero; `none` where that is refused. -/
def roundHundredths? : Number → Option Double
  | .int n => Double.ofHundredths? (n < 0) (100 * n.natAbs)
  | .real d => d.roundHundredths?

end Number

end TenantHost
