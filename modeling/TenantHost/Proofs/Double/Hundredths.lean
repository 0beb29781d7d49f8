import TenantHost.Double.Hundredths
import TenantHost.Proofs.Double.Shortest
/-!
# Where rounding to hundredths is refused

Rounding is refused for the infinities and for the doubles from `10 ^ 26` on, and for no other. The
double next to `10 ^ 26` lies above it and is the least one that is refused: the decimals that are
rounded up to `10 ^ 26` read back as that double or a greater one.
-/

namespace TenantHost.Double

/-- `10 ^ 26` in units of `2 ^ -1074`. -/
@[irreducible] def refusedFrom : Nat := tenTo 26 * twoTo 1074

/-- The least rank whose magnitude is not below `10 ^ 26`. -/
@[irreducible] def refusedRank : Nat := nearestRank refusedFrom 1

/-- The least decimal that is rounded up to `10 ^ 26`, in units of `10 ^ -1074`. -/
@[irreducible] def refusedDecimal : Nat := tenTo 1100 - 5 * tenTo 1071

/-- The constants are what they are said to be. The rank before the least refused one is below `10 ^
26`, and the shortest decimal of the least refused one is `10 ^ 26`; the decimals from the least
refused one on read back as that rank or a greater one, and `10 ^ 26` as a finite one. -/
theorem refused_values :
    magnitude (refusedRank - 1) < refusedFrom ∧ refusedFrom ≤ magnitude refusedRank ∧
      shortest refusedRank = tenTo 1100 ∧ rankOfDecimal refusedDecimal = refusedRank ∧
      refusedDecimal + 5 * tenTo 1071 = hundredthsLimit * tenTo 1072 ∧
      rankOfDecimal (refusedDecimal + 5 * tenTo 1071) < rankLimit := by
  decide +kernel

theorem refusedDecimal_add : refusedDecimal + 5 * tenTo 1071 = hundredthsLimit * tenTo 1072 :=
  refused_values.2.2.2.2.1

/-- The decimal `10 ^ 26` reads back as a finite double. -/
theorem rankOfDecimal_lt_rankLimit :
    rankOfDecimal (refusedDecimal + 5 * tenTo 1071) < rankLimit :=
  refused_values.2.2.2.2.2

/-- A rank is below the least refused one just when its magnitude is below `10 ^ 26`. -/
theorem lt_refusedRank_iff {rank : Nat} : rank < refusedRank ↔ magnitude rank < refusedFrom := by
  obtain ⟨hbelow, habove, -⟩ := refused_values
  constructor
  · intro h
    have hle : rank ≤ refusedRank - 1 := Nat.le_pred_of_lt h
    exact Nat.lt_of_le_of_lt (magnitude_le_magnitude_iff.mpr hle) hbelow
  · intro h
    exact magnitude_lt_magnitude_iff.mp (Nat.lt_of_lt_of_le h habove)

theorem refusedDecimal_le : refusedDecimal ≤ tenTo 1100 := by
  unfold refusedDecimal
  exact Nat.sub_le _ _

theorem hundredths_lt_limit_iff {units : Nat} :
    hundredths units < hundredthsLimit ↔ units < refusedDecimal := by
  rw [hundredths, Nat.div_lt_iff_lt_mul (tenTo_pos 1072), ← refusedDecimal_add]
  exact Nat.add_lt_add_iff_right

theorem shortest_lt_refusedDecimal_iff {rank : Nat} :
    shortest rank < refusedDecimal ↔ rank < refusedRank := by
  obtain ⟨-, -, hshortest, hdecimal, -⟩ := refused_values
  constructor
  · intro h
    rcases Nat.lt_trichotomy rank refusedRank with hlt | rfl | hgt
    · exact hlt
    · rw [hshortest] at h
      exact absurd h (Nat.not_lt.mpr refusedDecimal_le)
    · rw [← hdecimal] at hgt
      have habove := lt_shortest hgt
      omega
  · intro h
    rw [← hdecimal] at h
    exact shortest_lt h

/-- **A finite double is rounded to hundredths just when it is below `10 ^ 26` in magnitude.** -/
theorem hundredths_shortest_lt_limit_iff {rank : Nat} :
    hundredths (shortest rank) < hundredthsLimit ↔ magnitude rank < refusedFrom := by
  rw [hundredths_lt_limit_iff, shortest_lt_refusedDecimal_iff, lt_refusedRank_iff]

end TenantHost.Double
