import TenantHost.Power
/-!
# Double precision numbers, exactly

A finite double is a sign and a rank: the place of its magnitude among all magnitudes in ascending
order, 0 for zero and 1 for the least positive one. Ranks below `2 ^ 53` are the multiples of the
least magnitude `2 ^ -1074`; from there on each stretch of `2 ^ 52` ranks doubles the step. All
arithmetic is exact on natural numbers, in units of `2 ^ -1074`, and is rounded once, to the nearest
rank, a tie to the even one.
-/

namespace TenantHost

/-- One more than the rank of the greatest finite magnitude. -/
def Double.rankLimit : Nat := 2047 * twoTo 52

/-- A double; there is one NaN. -/
inductive Double where
  | nan
  | infinity (negative : Bool)
  | finite (negative : Bool) (rank : Fin Double.rankLimit)
  deriving DecidableEq

namespace Double

/-! ## Ranks -/

/-- The magnitude of a rank in units of `2 ^ -1074`. -/
def magnitude (rank : Nat) : Nat :=
  let doublings := rank / twoTo 52 - 1
  (rank - doublings * twoTo 52) * twoTo doublings

/-- The natural number nearest to a quotient; a tie goes to the even one. -/
def roundQuotient (num den : Nat) : Nat :=
  let quotient := num / den
  let twice := 2 * (num % den)
  if twice < den then quotient
  else if den < twice then quotient + 1
  else quotient + quotient % 2

/-- The rank nearest to a quotient that is given in units of `2 ^ -1074`; it may lie beyond the
finite ones. -/
def nearestRank (num den : Nat) : Nat :=
  let doublings := (num / den).log2 - 52
  roundQuotient num (den * twoTo doublings) + doublings * twoTo 52

/-- The double of a sign and a rank; from the limit on it is infinite. -/
def ofRank (negative : Bool) (rank : Nat) : Double :=
  if h : rank < rankLimit then .finite negative ⟨rank, h⟩ else .infinity negative

/-- The double nearest to a quotient. -/
def ofRatio (negative : Bool) (num den : Nat) : Double :=
  ofRank negative (nearestRank (num * twoTo 1074) den)

/-- The double nearest to a natural number. -/
def ofNat (n : Nat) : Double :=
  ofRatio false n 1

/-- The double nearest to an integer; beyond the greatest finite one it is infinite. -/
def ofInt (n : Int) : Double :=
  ofRatio (n < 0) n.natAbs 1

/-- Zero with a sign. -/
def signedZero (negative : Bool) : Double := .finite negative ⟨0, by decide⟩

/-- Positive zero. -/
def zero : Double := signedZero false

/-- The double -1. -/
def minusOne : Double := ofInt (-1)

/-! ## Sign and order -/

/-- A sign put on an amount. -/
def signed (negative : Bool) (amount : Nat) : Int :=
  if negative then -(amount : Int) else amount

/-- The double with the opposite sign. -/
def neg : Double → Double
  | .nan => .nan
  | .infinity negative => .infinity !negative
  | .finite negative rank => .finite (!negative) rank

/-- Whether a double is neither NaN nor infinite. -/
def isFinite : Double → Bool
  | .finite _ _ => true
  | _ => false

/-- A place on the line of numbers with both infinities; the finite ones in units of `2 ^ -1074`. -/
inductive Place where
  | bottom
  | units (n : Int)
  | top
  deriving DecidableEq

/-- Whether one place comes before another. -/
def Place.before : Place → Place → Bool
  | .bottom, .bottom => false
  | .bottom, _ => true
  | .units _, .bottom => false
  | .units m, .units n => m < n
  | .units _, .top => true
  | .top, _ => false

/-- Where a double stands; NaN stands nowhere. -/
def place? : Double → Option Place
  | .nan => none
  | .infinity negative => some (if negative then .bottom else .top)
  | .finite negative rank => some (.units (signed negative (magnitude rank)))

/-! ## Arithmetic -/

/-- The difference of two doubles. Equal ones differ by positive zero, unless a positive zero is
taken from a negative one. -/
def sub : Double → Double → Double
  | .nan, _ => .nan
  | _, .nan => .nan
  | .infinity a, .infinity b => if a = b then .nan else .infinity a
  | .infinity a, .finite _ _ => .infinity a
  | .finite _ _, .infinity b => .infinity !b
  | .finite a j, .finite b k =>
    let difference := signed a (magnitude j) - signed b (magnitude k)
    if difference = 0 then signedZero (a && !b)
    else ofRank (difference < 0) (nearestRank difference.natAbs 1)

/-- The quotient of two doubles. -/
def div : Double → Double → Double
  | .nan, _ => .nan
  | _, .nan => .nan
  | .infinity _, .infinity _ => .nan
  | .infinity a, .finite b _ => .infinity (a != b)
  | .finite a _, .infinity b => signedZero (a != b)
  | .finite a j, .finite b k =>
    if k.val = 0 then (if j.val = 0 then .nan else .infinity (a != b))
    else ofRatio (a != b) (magnitude j) (magnitude k)

end Double

end TenantHost
