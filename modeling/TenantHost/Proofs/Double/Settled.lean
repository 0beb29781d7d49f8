import TenantHost.Proofs.Double.Hundredths
/-!
# Rounding to hundredths keeps the order

A double is rounded to hundredths by way of its shortest decimal, and each step on that way keeps
the order. A whole number stays as it is: its shortest decimal is a whole number too. So it does not
matter whether a whole number was a double before it was rounded, and amounts of all kinds are
rounded in one order.
-/

namespace TenantHost.Double

/-! ## Through the shortest decimal -/

/-- Shortest decimals are ordered as their ranks are. -/
theorem shortest_mono {j k : Nat} (h : j ≤ k) : shortest j ≤ shortest k := by
  rcases Nat.eq_or_lt_of_le h with rfl | hlt
  · exact Nat.le_refl _
  · have hread : rankOfDecimal (shortest j) < k := by
      rw [rankOfDecimal_shortest]
      exact hlt
    exact Nat.le_of_lt (lt_shortest hread)

theorem hundredths_mono {a b : Nat} (h : a ≤ b) : hundredths a ≤ hundredths b := by
  unfold hundredths
  exact Nat.div_le_div_right (Nat.add_le_add_right h _)

/-- The rank that a rank is rounded to. -/
def roundedRank (rank : Nat) : Nat :=
  rankOfDecimal (hundredths (shortest rank) * tenTo 1072)

/-- **Rounding a rank to hundredths keeps the order.** -/
theorem roundedRank_mono {j k : Nat} (h : j ≤ k) : roundedRank j ≤ roundedRank k := by
  unfold roundedRank
  apply rankOfDecimal_mono
  exact Nat.mul_le_mul_right _ (hundredths_mono (shortest_mono h))

/-! ## The shortest decimal of a whole number -/

theorem dvd_of_neighbour {rank exact step units : Nat}
    (h : neighbour? rank exact step = some units) :
    step ∣ units := by
  have hbelow : step ∣ exact / step * step := Nat.dvd_mul_left _ _
  have habove : step ∣ exact / step * step + step := Nat.dvd_add hbelow (Nat.dvd_refl step)
  simp only [neighbour?] at h
  split at h
  · split at h
    · rw [← Option.some.inj h]
      exact habove
    · rw [← Option.some.inj h]
      exact hbelow
  · split at h
    · rw [← Option.some.inj h]
      exact habove
    · exact absurd h (Option.some_ne_none units).symm

/-- A decimal between two that read back as a rank reads back as it too. -/
theorem rankOfDecimal_of_between {rank low units high : Nat} (hlow : rankOfDecimal low = rank)
    (hhigh : rankOfDecimal high = rank) (habove : low ≤ units) (hbelow : units ≤ high) :
    rankOfDecimal units = rank := by
  apply Nat.le_antisymm
  · rw [← hhigh]
    exact rankOfDecimal_mono hbelow
  · rw [← hlow]
    exact rankOfDecimal_mono habove

/-- A step that divides some decimal that reads back finds one: a neighbour of the exact decimal
lies between the two. -/
theorem neighbour_ne_none {rank exact units step : Nat} (hstep : 0 < step)
    (hexact : rankOfDecimal exact = rank) (hread : rankOfDecimal units = rank)
    (hdvd : step ∣ units) :
    neighbour? rank exact step ≠ none := by
  have hneighbour : rankOfDecimal (exact / step * step) = rank ∨
      rankOfDecimal (exact / step * step + step) = rank := by
    obtain ⟨count, rfl⟩ := hdvd
    rw [Nat.mul_comm] at hread
    rcases Nat.lt_or_ge (exact / step) count with hlt | hge
    · right
      rw [← Nat.succ_mul]
      apply rankOfDecimal_of_between hexact hread
      · exact Nat.le_of_lt (Nat.lt_mul_of_div_lt (Nat.lt_succ_self _) hstep)
      · exact Nat.mul_le_mul_right step hlt
    · left
      exact rankOfDecimal_of_between hread hexact (Nat.mul_le_mul_right step hge)
        (Nat.div_mul_le_self exact step)
  simp only [neighbour?]
  split
  · split
    · exact Option.some_ne_none _
    · exact Option.some_ne_none _
  · rename_i hbelow
    rw [if_pos (hneighbour.resolve_left hbelow)]
    exact Option.some_ne_none _

/-- The search stops at the latest at a power of ten that divides a decimal that reads back. -/
theorem tenTo_dvd_shortestFrom {rank exact units place : Nat} (hexact : rankOfDecimal exact = rank)
    (hread : rankOfDecimal units = rank) (hdvd : tenTo place ∣ units) {power : Nat}
    (h : place ≤ power) :
    tenTo place ∣ shortestFrom rank exact power := by
  induction power with
  | zero =>
    rw [Nat.le_zero.mp h, tenTo_zero]
    exact Nat.one_dvd _
  | succ power ih =>
    rw [shortestFrom]
    cases hfound : neighbour? rank exact (tenTo (power + 1)) with
    | some units =>
      have hpower : tenTo place ∣ tenTo (power + 1) := Nat.pow_dvd_pow 10 h
      exact Nat.dvd_trans hpower (dvd_of_neighbour hfound)
    | none =>
      -- nothing was found, so this power is not yet the one that divides
      have hbefore : place ≤ power := by
        rcases Nat.lt_or_eq_of_le h with hlt | rfl
        · exact Nat.le_of_lt_succ hlt
        · exact absurd hfound (neighbour_ne_none (tenTo_pos _) hexact hread hdvd)
      exact ih hbefore

theorem le_digitCount {place n : Nat} (h : tenTo place ≤ n) : place + 1 ≤ digitCount n := by
  rcases Nat.lt_or_ge place (digitCount n) with hlt | hge
  · exact hlt
  · have hpos : 0 < place :=
      Nat.lt_of_lt_of_le Nat.length_toDigits_pos hge
    have hsmall : n < tenTo place := (Nat.length_toDigits_le_iff (by decide) hpos).mp hge
    exact absurd h (Nat.not_le.mpr hsmall)

/-- **The shortest decimal has the zeros at its end that any decimal has that reads back**, unless
there are so many of them that the exact one lies below them. -/
theorem tenTo_dvd_shortest {rank units place : Nat} (hread : rankOfDecimal units = rank)
    (hdvd : tenTo place ∣ units) (h : tenTo place ≤ decimalUnits rank) :
    tenTo place ∣ shortest rank :=
  tenTo_dvd_shortestFrom (rankOfDecimal_decimalUnits rank) hread hdvd
    (Nat.le_sub_of_add_le (le_digitCount h))

/-- The shortest decimal has the zeros at its end that the exact one has. -/
theorem tenTo_dvd_shortest_of_exact {rank place : Nat} (hdvd : tenTo place ∣ decimalUnits rank) :
    tenTo place ∣ shortest rank := by
  rcases Nat.eq_zero_or_pos (decimalUnits rank) with hzero | hpos
  · have hshortest : shortest rank = 0 := by
      simp only [shortest, hzero]
      rfl
    rw [hshortest]
    exact Nat.dvd_zero _
  · exact tenTo_dvd_shortest (rankOfDecimal_decimalUnits rank) hdvd (Nat.le_of_dvd hpos hdvd)

/-! ## Whole numbers are rounded to themselves -/

/-- A whole number as a number of hundredths. -/
theorem whole_eq (k : Nat) : k * tenTo 1074 = 100 * k * tenTo 1072 := by
  rw [tenTo_succ 1073, tenTo_succ 1072, Nat.mul_comm 100 k, Nat.mul_assoc k 100]
  generalize tenTo 1072 = unit
  rw [Nat.mul_assoc unit 10 10, Nat.mul_comm unit]

theorem hundredths_whole (k : Nat) : hundredths (k * tenTo 1074) = 100 * k := by
  have hhalf : 5 * tenTo 1071 < tenTo 1072 := by
    have hpos := tenTo_pos 1071
    rw [tenTo_succ 1071]
    omega
  unfold hundredths
  rw [whole_eq, Nat.add_comm, Nat.add_mul_div_right _ _ (tenTo_pos 1072), Nat.div_eq_of_lt hhalf,
    Nat.zero_add]

/-- **A whole number is rounded to itself.** -/
theorem roundedRank_of_whole {rank n : Nat} (h : magnitude rank = n * twoTo 1074) :
    roundedRank rank = rank := by
  have hexact : decimalUnits rank = n * tenTo 1074 := by
    rw [decimalUnits, h, fivePower, Nat.mul_assoc, ← tenTo_eq]
  have hdvd : tenTo 1074 ∣ shortest rank := by
    apply tenTo_dvd_shortest_of_exact
    rw [hexact]
    exact Nat.dvd_mul_left _ _
  obtain ⟨k, hk⟩ := hdvd
  rw [Nat.mul_comm] at hk
  have hback : hundredths (shortest rank) * tenTo 1072 = shortest rank := by
    rw [hk, hundredths_whole, whole_eq]
  rw [roundedRank, hback, rankOfDecimal_shortest]

/-! ## The double nearest to a whole number -/

/-- A magnitude as a number of the steps where it lies. -/
theorem magnitude_of_steps {count doublings : Nat} (hhigh : count ≤ twoTo 53)
    (hlow : 0 < doublings → twoTo 52 ≤ count) :
    magnitude (count + doublings * twoTo 52) = count * twoTo doublings := by
  have hdouble : twoTo 53 = 9007199254740992 := rfl
  rw [hdouble] at hhigh
  rw [twoTo_stretch] at hlow
  simp only [magnitude, twoTo_stretch]
  rcases Nat.lt_or_eq_of_le hhigh with hlt | rfl
  · have hsame : (count + doublings * 4503599627370496) / 4503599627370496 - 1 = doublings := by
      omega
    rw [hsame, Nat.add_sub_cancel]
  · -- the end of a stretch is the beginning of the next one
    have hnext : (9007199254740992 + doublings * 4503599627370496) / 4503599627370496 - 1
        = doublings + 1 := by
      omega
    have hcount : 9007199254740992 + doublings * 4503599627370496
        - (doublings + 1) * 4503599627370496 = 4503599627370496 := by
      omega
    rw [hnext, hcount, twoTo_succ]
    omega

/-- The magnitude of the first rank of a stretch is a power of two. -/
theorem magnitude_twoTo (doublings : Nat) :
    magnitude ((doublings + 1) * twoTo 52) = twoTo (52 + doublings) := by
  have hrank : (doublings + 1) * twoTo 52 = twoTo 52 + doublings * twoTo 52 := by
    rw [Nat.succ_mul, Nat.add_comm]
  have hdouble : twoTo 52 ≤ twoTo 53 := by
    rw [twoTo_succ 52]
    omega
  rw [hrank, magnitude_of_steps hdouble fun _ => Nat.le_refl _, twoTo_add]

@[simp] theorem nearestRank_zero {den : Nat} (h : 0 < den) : nearestRank 0 den = 0 := by
  have hle : nearestRank 0 den ≤ 0 := nearestRank_le h (Nat.zero_le _)
  exact Nat.le_zero.mp hle

@[simp] theorem magnitude_zero : magnitude 0 = 0 := rfl

/-- What a quotient is rounded to is a number of the steps where it lies. -/
theorem magnitude_nearestRank {num den : Nat} (h : 0 < den) :
    magnitude (nearestRank num den)
      = roundQuotient num (den * twoTo (doublingsAt num den)) * twoTo (doublingsAt num den) := by
  rw [nearestRank_eq]
  exact magnitude_of_steps (roundQuotient_le_steps h) (steps_le_roundQuotient h)

/-- The double nearest to a whole number is a whole number. -/
theorem exists_whole_nearestRank (n : Nat) :
    ∃ k, magnitude (nearestRank (n * twoTo 1074) 1) = k * twoTo 1074 := by
  rw [magnitude_nearestRank Nat.one_pos, Nat.one_mul]
  generalize doublingsAt (n * twoTo 1074) 1 = doublings
  rcases Nat.le_total doublings 1074 with hle | hge
  · -- the steps are parts of a whole, so nothing is rounded
    have hsplit : twoTo 1074 = twoTo (1074 - doublings) * twoTo doublings := by
      rw [← twoTo_add, Nat.sub_add_cancel hle]
    refine ⟨n, ?_⟩
    rw [hsplit, ← Nat.mul_assoc, roundQuotient_mul _ (twoTo_pos _)]
  · have hsplit : twoTo doublings = twoTo (doublings - 1074) * twoTo 1074 := by
      rw [← twoTo_add, Nat.sub_add_cancel hge]
    refine ⟨roundQuotient (n * twoTo 1074) (twoTo doublings) * twoTo (doublings - 1074), ?_⟩
    rw [Nat.mul_assoc, ← hsplit]

/-- Rounding to hundredths leaves the double nearest to a whole number alone. -/
theorem roundedRank_nearestRank_whole (n : Nat) :
    roundedRank (nearestRank (n * twoTo 1074) 1) = nearestRank (n * twoTo 1074) 1 := by
  obtain ⟨k, hk⟩ := exists_whole_nearestRank n
  exact roundedRank_of_whole hk

/-! ## Amounts with signs -/

@[simp] theorem signed_false (amount : Nat) : signed false amount = amount := rfl

@[simp] theorem signed_true (amount : Nat) : signed true amount = -(amount : Int) := rfl

/-- A function of magnitudes that keeps their order keeps that of amounts with signs. -/
theorem signed_mono {f : Nat → Nat} (hf : ∀ j k, j ≤ k → f j ≤ f k) {m n : Int}
    (h : m ≤ n) :
    signed (m < 0) (f m.natAbs) ≤ signed (n < 0) (f n.natAbs) := by
  by_cases hm : m < 0
  · rw [decide_eq_true hm, signed_true]
    by_cases hn : n < 0
    · -- below zero the magnitudes are in the opposite order
      have hmagnitudes := hf n.natAbs m.natAbs (by omega)
      rw [decide_eq_true hn, signed_true]
      omega
    · rw [decide_eq_false hn, signed_false]
      omega
  · have hmagnitudes := hf m.natAbs n.natAbs (by omega)
    rw [decide_eq_false hm, decide_eq_false (by omega : ¬ n < 0), signed_false, signed_false]
    omega

/-- What an amount in units of `2 ^ -1074` is rounded to: to a double first, and then to
hundredths. -/
def settled (n : Int) : Int :=
  signed (n < 0) (magnitude (roundedRank (nearestRank n.natAbs 1)))

theorem settled_of_nonneg {n : Int} (h : 0 ≤ n) :
    settled n = magnitude (roundedRank (nearestRank n.natAbs 1)) := by
  unfold settled
  rw [decide_eq_false (Int.not_lt.mpr h), signed_false]

theorem settled_of_neg {n : Int} (h : n < 0) :
    settled n = -(magnitude (roundedRank (nearestRank n.natAbs 1)) : Int) := by
  unfold settled
  rw [decide_eq_true h, signed_true]

/-- **Amounts are rounded in order.** -/
theorem settled_mono {m n : Int} (h : m ≤ n) : settled m ≤ settled n := by
  have hmono : ∀ j k, j ≤ k →
      magnitude (roundedRank (nearestRank j 1)) ≤ magnitude (roundedRank (nearestRank k 1)) := by
    intro j k hjk
    apply magnitude_le_magnitude_iff.mpr
    apply roundedRank_mono
    exact nearestRank_mono Nat.one_pos Nat.one_pos (Nat.mul_le_mul_right 1 hjk)
  exact signed_mono hmono h

end TenantHost.Double
