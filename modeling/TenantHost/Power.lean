/-!
# Powers of two, five and ten

The scales that amounts are counted in. A power of ten is the product of the powers of two and five,
which is why every power of two down to a negative exponent is a decimal.
-/

namespace TenantHost

/-- Two to a power. -/
def twoTo (n : Nat) : Nat :=
  Nat.pow 2 n

/-- Five to a power. -/
def fiveTo (n : Nat) : Nat :=
  Nat.pow 5 n

/-- Ten to a power. -/
def tenTo (n : Nat) : Nat :=
  Nat.pow 10 n

/-! ## Laws -/

@[simp] theorem twoTo_zero : twoTo 0 = 1 := rfl

@[simp] theorem tenTo_zero : tenTo 0 = 1 := rfl

theorem twoTo_succ (n : Nat) : twoTo (n + 1) = twoTo n * 2 := rfl

theorem fiveTo_succ (n : Nat) : fiveTo (n + 1) = fiveTo n * 5 := rfl

theorem tenTo_succ (n : Nat) : tenTo (n + 1) = tenTo n * 10 := rfl

@[simp] theorem twoTo_pos (n : Nat) : 0 < twoTo n :=
  Nat.pow_pos (by decide)

@[simp] theorem fiveTo_pos (n : Nat) : 0 < fiveTo n :=
  Nat.pow_pos (by decide)

@[simp] theorem tenTo_pos (n : Nat) : 0 < tenTo n :=
  Nat.pow_pos (by decide)

theorem twoTo_add (m n : Nat) : twoTo (m + n) = twoTo m * twoTo n :=
  Nat.pow_add 2 m n

theorem tenTo_add (m n : Nat) : tenTo (m + n) = tenTo m * tenTo n :=
  Nat.pow_add 10 m n

theorem twoTo_mono {m n : Nat} (h : m ≤ n) : twoTo m ≤ twoTo n :=
  Nat.pow_le_pow_right (by decide) h

theorem tenTo_mono {m n : Nat} (h : m ≤ n) : tenTo m ≤ tenTo n :=
  Nat.pow_le_pow_right (by decide) h

theorem twoTo_le_tenTo (n : Nat) : twoTo n ≤ tenTo n :=
  Nat.pow_le_pow_left (by decide) n

/-- Ten is two times five, to any power. -/
theorem tenTo_eq (n : Nat) : tenTo n = twoTo n * fiveTo n := by
  induction n with
  | zero => rfl
  | succ n ih => rw [tenTo_succ, twoTo_succ, fiveTo_succ, ih, Nat.mul_mul_mul_comm]

end TenantHost
