import TenantHost.Proofs.Double.Settled
/-!
# What is rounded to zero, and to one

Rounding to hundredths takes an amount below zero just if it is half a hundredth or more below it,
and beyond one just if it is half a hundredth or more beyond that. The doubles nearest to these
halves are rounded away themselves, whichever side of the halves they lie on, as they are written
like them.
-/

namespace TenantHost.Double

/-! ## Ranks -/

/-- The rank of one. -/
def oneRank : Nat := 1023 * twoTo 52

/-- The rank of two. -/
def twoRank : Nat := 1024 * twoTo 52

/-- The rank nearest to half a hundredth. -/
@[irreducible] def halfRank : Nat := nearestRank (5 * twoTo 1074) 1000

/-- The rank nearest to one and half a hundredth. -/
@[irreducible] def overRank : Nat := nearestRank (1005 * twoTo 1074) 1000

/-- The two ranks are written as what they are nearest to, and lie where they should; and one is a
hundred hundredths, while one hundredth is more than nothing and a hundred and one are more than
one. -/
theorem threshold_values :
    (shortest halfRank = 5 * tenTo 1071 ∧ rankOfDecimal (5 * tenTo 1071) = halfRank) ∧
      (shortest overRank = 1005 * tenTo 1071 ∧ rankOfDecimal (1005 * tenTo 1071) = overRank) ∧
      (0 < rankOfDecimal (1 * tenTo 1072) ∧ rankOfDecimal (100 * tenTo 1072) = oneRank ∧
        oneRank < rankOfDecimal (101 * tenTo 1072)) ∧
      0 < halfRank ∧ halfRank ≤ twoRank ∧ overRank ≤ twoRank ∧ oneRank < overRank := by
  decide +kernel

theorem magnitude_oneRank : magnitude oneRank = twoTo 1074 :=
  magnitude_twoTo 1022

theorem magnitude_twoRank : magnitude twoRank = 2 * twoTo 1074 := by
  have hdouble : magnitude twoRank = twoTo (1074 + 1) := magnitude_twoTo 1023
  rw [hdouble, twoTo_succ, Nat.mul_comm]

/-- Up to two, whole numbers are doubles; from there on they lie beyond every lower rank. -/
theorem whole_lt_magnitude_iff {k rank : Nat} (hrank : rank ≤ twoRank) :
    k * twoTo 1074 < magnitude rank ↔ nearestRank (k * twoTo 1074) 1 < rank := by
  have hdouble : ∀ other, magnitude other < magnitude rank ↔
      nearestRank (magnitude other) 1 < rank := by
    intro other
    have hback := nearestRank_magnitude other Nat.one_pos
    rw [Nat.mul_one] at hback
    rw [hback, magnitude_lt_magnitude_iff]
  -- zero and one are doubles; a greater whole number is at least two, and so is its double
  rcases Nat.lt_trichotomy k 1 with hzero | rfl | hmore
  · obtain rfl := Nat.lt_one_iff.mp hzero
    rw [Nat.zero_mul, ← magnitude_zero]
    exact hdouble 0
  · rw [Nat.one_mul, ← magnitude_oneRank]
    exact hdouble oneRank
  · have hbeyond : magnitude twoRank ≤ k * twoTo 1074 := by
      rw [magnitude_twoRank]
      exact Nat.mul_le_mul_right _ hmore
    have hrank' : twoRank ≤ nearestRank (k * twoTo 1074) 1 := by
      apply le_nearestRank Nat.one_pos
      rw [Nat.mul_one]
      exact hbeyond
    have hmagnitude : magnitude rank ≤ magnitude twoRank := magnitude_le_magnitude_iff.mpr hrank
    exact iff_of_false (Nat.not_lt.mpr (Nat.le_trans hmagnitude hbeyond))
      (Nat.not_lt.mpr (Nat.le_trans hrank hrank'))

/-! ## Hundredths -/

/-- A rank that is written as what it is nearest to parts the others. -/
theorem shortest_lt_iff {rank units : Nat} (hshortest : shortest rank = units)
    (hread : rankOfDecimal units = rank) {j : Nat} : shortest j < units ↔ j < rank := by
  constructor
  · intro h
    rcases Nat.lt_trichotomy j rank with hlt | rfl | hgt
    · exact hlt
    · rw [hshortest] at h
      exact absurd h (Nat.lt_irrefl _)
    · rw [← hread] at hgt
      exact absurd h (Nat.not_lt.mpr (Nat.le_of_lt (lt_shortest hgt)))
  · intro h
    rw [← hread] at h
    exact shortest_lt h

theorem hundredths_lt_iff {units count : Nat} :
    hundredths units < count ↔ units + 5 * tenTo 1071 < count * tenTo 1072 := by
  rw [hundredths, Nat.div_lt_iff_lt_mul (tenTo_pos 1072)]

theorem hundredths_shortest_lt_one_iff {rank : Nat} : hundredths (shortest rank) < 1 ↔
    rank < halfRank := by
  obtain ⟨⟨hshortest, hread⟩, -⟩ := threshold_values
  rw [hundredths_lt_iff, ← shortest_lt_iff hshortest hread, tenTo_succ 1071]
  generalize tenTo 1071 = tenth
  omega

theorem hundredths_shortest_le_hundred_iff {rank : Nat} :
    hundredths (shortest rank) < 101 ↔ rank < overRank := by
  obtain ⟨-, ⟨hshortest, hread⟩, -⟩ := threshold_values
  rw [hundredths_lt_iff, ← shortest_lt_iff hshortest hread, tenTo_succ 1071]
  generalize tenTo 1071 = tenth
  omega

/-! ## Rounded ranks -/

/-- **What is rounded to zero** lies below half a hundredth. -/
theorem roundedRank_pos_iff {rank : Nat} : 0 < roundedRank rank ↔ halfRank ≤ rank := by
  obtain ⟨-, -, ⟨hpos, -⟩, -⟩ := threshold_values
  rw [← Nat.not_lt, ← hundredths_shortest_lt_one_iff, Nat.not_lt, roundedRank]
  generalize hundredths (shortest rank) = count
  constructor
  · intro h
    rcases Nat.eq_zero_or_pos count with rfl | hcount
    · rw [Nat.zero_mul, rankOfDecimal, nearestRank_zero fivePower_pos] at h
      exact absurd h (Nat.lt_irrefl 0)
    · exact hcount
  · intro h
    exact Nat.lt_of_lt_of_le hpos (rankOfDecimal_mono (Nat.mul_le_mul_right _ h))

/-- **What is rounded to one at most** lies below one and half a hundredth. -/
theorem roundedRank_le_oneRank_iff {rank : Nat} : roundedRank rank ≤ oneRank ↔
    rank < overRank := by
  obtain ⟨-, -, ⟨-, hone, hmore⟩, -⟩ := threshold_values
  rw [← hundredths_shortest_le_hundred_iff, roundedRank]
  generalize hundredths (shortest rank) = count
  constructor
  · intro h
    rcases Nat.lt_or_ge count 101 with hlt | hge
    · exact hlt
    · have hbeyond := rankOfDecimal_mono (Nat.mul_le_mul_right (tenTo 1072) hge)
      exact absurd (Nat.le_trans hbeyond h) (Nat.not_le.mpr hmore)
  · intro h
    rw [← hone]
    exact rankOfDecimal_mono (Nat.mul_le_mul_right _ (Nat.le_of_lt_succ h))

/-! ## Amounts with signs -/

/-- An amount is not rounded below zero unless it lies half a hundredth below it. -/
theorem settled_nonneg_iff {n : Int} :
    0 ≤ settled n ↔ 0 ≤ n ∨ nearestRank n.natAbs 1 < halfRank := by
  rcases Int.lt_or_le n 0 with hneg | hnonneg
  · have hmagnitude : 0 < magnitude (roundedRank (nearestRank n.natAbs 1))
        ↔ halfRank ≤ nearestRank n.natAbs 1 := by
      rw [← roundedRank_pos_iff]
      have hiff := magnitude_lt_magnitude_iff (j := 0) (k := roundedRank (nearestRank n.natAbs 1))
      rwa [magnitude_zero] at hiff
    rw [settled_of_neg hneg]
    omega
  · rw [settled_of_nonneg hnonneg]
    exact iff_of_true (Int.natCast_nonneg _) (.inl hnonneg)

/-- An amount is not rounded beyond one unless it lies half a hundredth beyond it. -/
theorem settled_le_one_iff {n : Int} :
    settled n ≤ twoTo 1074 ↔ n < 0 ∨ nearestRank n.natAbs 1 < overRank := by
  rw [← magnitude_oneRank]
  rcases Int.lt_or_le n 0 with hneg | hnonneg
  · rw [settled_of_neg hneg]
    refine iff_of_true ?_ (.inl hneg)
    exact Int.le_trans (Int.neg_nonpos_of_nonneg (Int.natCast_nonneg _)) (Int.natCast_nonneg _)
  · rw [settled_of_nonneg hnonneg, Int.ofNat_le, magnitude_le_magnitude_iff,
      roundedRank_le_oneRank_iff]
    constructor
    · exact .inr
    · rintro (hneg | hlt)
      · exact absurd hneg (Int.not_lt.mpr hnonneg)
      · exact hlt

theorem settled_le_one {n : Int} (h : n ≤ twoTo 1074) : settled n ≤ twoTo 1074 := by
  obtain ⟨-, -, -, -, -, -, hover⟩ := threshold_values
  rw [settled_le_one_iff]
  rcases Int.lt_or_le n 0 with hneg | hnonneg
  · exact .inl hneg
  · refine .inr (Nat.lt_of_le_of_lt ?_ hover)
    apply nearestRank_le Nat.one_pos
    rw [Nat.mul_one, magnitude_oneRank]
    generalize twoTo 1074 = unit at h ⊢
    omega

end TenantHost.Double
