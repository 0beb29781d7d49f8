import TenantHost.Double.Shortest
import TenantHost.Proofs.Double.Rounding
/-!
# What the shortest decimal keeps

The shortest decimal of a double reads back as that double, so it lies on the same side of every
decimal that reads back as another one.
-/

namespace TenantHost.Double

/-! ## Reading decimals -/

theorem fivePower_pos : 0 < fivePower :=
  fiveTo_pos 1074

/-- Reading respects the order of decimals. -/
theorem rankOfDecimal_mono {a b : Nat} (h : a ≤ b) : rankOfDecimal a ≤ rankOfDecimal b := by
  unfold rankOfDecimal
  exact nearestRank_mono fivePower_pos fivePower_pos (Nat.mul_le_mul_right fivePower h)

/-- The exact decimal of a rank reads back. -/
theorem rankOfDecimal_decimalUnits (rank : Nat) : rankOfDecimal (decimalUnits rank) = rank :=
  nearestRank_magnitude rank fivePower_pos

/-! ## The search -/

theorem rankOfDecimal_of_neighbour {rank exact step units : Nat}
    (h : neighbour? rank exact step = some units) : rankOfDecimal units = rank := by
  simp only [neighbour?] at h
  split at h
  · rename_i hbelow
    split at h
    · rename_i habove
      rw [← Option.some.inj h]
      exact habove.1
    · rw [← Option.some.inj h]
      exact hbelow
  · split at h
    · rename_i habove
      rw [← Option.some.inj h]
      exact habove
    · exact absurd h (Option.some_ne_none units).symm

theorem rankOfDecimal_shortestFrom {rank exact : Nat} (h : rankOfDecimal exact = rank)
    (power : Nat) :
    rankOfDecimal (shortestFrom rank exact power) = rank := by
  induction power with
  | zero => exact h
  | succ power ih =>
    rw [shortestFrom]
    cases hfound : neighbour? rank exact (tenTo (power + 1)) with
    | none => exact ih
    | some units => exact rankOfDecimal_of_neighbour hfound

/-- **The shortest decimal reads back.** -/
theorem rankOfDecimal_shortest (rank : Nat) : rankOfDecimal (shortest rank) = rank :=
  rankOfDecimal_shortestFrom (rankOfDecimal_decimalUnits rank) _

/-- A decimal that reads back as a lower rank lies below the shortest decimal. -/
theorem lt_shortest {units rank : Nat} (h : rankOfDecimal units < rank) :
    units < shortest rank := by
  rcases Nat.lt_or_ge units (shortest rank) with hlt | hge
  · exact hlt
  · have hmono := rankOfDecimal_mono hge
    rw [rankOfDecimal_shortest] at hmono
    omega

/-- A decimal that reads back as a higher rank lies above the shortest decimal. -/
theorem shortest_lt {units rank : Nat} (h : rank < rankOfDecimal units) :
    shortest rank < units := by
  rcases Nat.lt_or_ge (shortest rank) units with hlt | hge
  · exact hlt
  · have hmono := rankOfDecimal_mono hge
    rw [rankOfDecimal_shortest] at hmono
    omega

end TenantHost.Double
