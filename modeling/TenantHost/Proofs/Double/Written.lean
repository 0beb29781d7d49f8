import TenantHost.Proofs.Double.Settled
/-!
# The decimal that a double is written with

Among the decimals that read back as a double, the one that it is written with has the fewest
digits, and no other one with as few is nearer. The search goes by powers of ten instead of digits:
it stops at the greatest one that divides a decimal that reads back. The two measures differ only
around a power of ten. If the decimals that read back lie on both sides of one, then that power
reads back itself, and it has a single digit.
-/

namespace TenantHost.Double

/-- A decimal that is written with some number of digits, and zeros in front of them or behind. -/
def HasDigits (digits units : Nat) : Prop :=
  ∃ significand power, significand < tenTo digits ∧ units = significand * tenTo power

/-- How far a decimal is from the exact one of a rank. -/
def deviation (rank units : Nat) : Nat :=
  ((units : Int) - (decimalUnits rank : Int)).natAbs

theorem deviation_exact (rank : Nat) : deviation rank (decimalUnits rank) = 0 := by
  rw [deviation, Int.sub_self, Int.natAbs_zero]

/-- The shortest decimal of a rank: it reads back, with no more digits than any other decimal that
does, and with no more deviation than any other one with as few digits. -/
structure IsShortest (rank units : Nat) : Prop where
  readsBack : rankOfDecimal units = rank
  fewest : ∀ other digits, rankOfDecimal other = rank → HasDigits digits other →
    HasDigits digits units
  nearest : ∀ other, rankOfDecimal other = rank →
    (∀ digits, HasDigits digits units → HasDigits digits other) →
    deviation rank units ≤ deviation rank other

/-! ## What the search finds -/

/-- A decimal at a power of ten: it is a multiple of it and reads back, as near as any other such
multiple, and no greater power up to some bound divides a decimal that reads back. -/
structure FoundAt (rank bound place units : Nat) : Prop where
  le_bound : place ≤ bound
  readsBack : rankOfDecimal units = rank
  dvd : tenTo place ∣ units
  nearest : ∀ other, rankOfDecimal other = rank → tenTo place ∣ other →
    deviation rank units ≤ deviation rank other
  greatest : ∀ other power, rankOfDecimal other = rank → power ≤ bound →
    tenTo power ∣ other → power ≤ place

/-- A neighbour that is found is as near as any multiple that reads back. -/
theorem deviation_of_neighbour {rank step units other : Nat} (hstep : 0 < step)
    (hfound : neighbour? rank (decimalUnits rank) step = some units)
    (hother : rankOfDecimal other = rank) (hdvd : step ∣ other) :
    deviation rank units ≤ deviation rank other := by
  have hexact := rankOfDecimal_decimalUnits rank
  have hlow := Nat.div_mul_le_self (decimalUnits rank) step
  have hsucc : (decimalUnits rank / step + 1) * step = decimalUnits rank / step * step + step :=
    Nat.succ_mul _ _
  have hhigh : decimalUnits rank < decimalUnits rank / step * step + step := by
    rw [← hsucc]
    exact Nat.lt_mul_of_div_lt (Nat.lt_succ_self _) hstep
  obtain ⟨count, rfl⟩ := hdvd
  rw [Nat.mul_comm step count] at hother ⊢
  -- a multiple that reads back lies beyond one of the two neighbours, which then reads back too
  have hside : (count * step ≤ decimalUnits rank / step * step ∧
        rankOfDecimal (decimalUnits rank / step * step) = rank) ∨
      (decimalUnits rank / step * step + step ≤ count * step ∧
        rankOfDecimal (decimalUnits rank / step * step + step) = rank) := by
    rcases Nat.lt_or_ge (decimalUnits rank / step) count with hlt | hge
    · right
      have hbeyond : decimalUnits rank / step * step + step ≤ count * step := by
        rw [← hsucc]
        exact Nat.mul_le_mul_right step hlt
      exact ⟨hbeyond, rankOfDecimal_of_between hexact hother (by omega) hbeyond⟩
    · left
      have hbeyond : count * step ≤ decimalUnits rank / step * step :=
        Nat.mul_le_mul_right step hge
      exact ⟨hbeyond, rankOfDecimal_of_between hother hexact hbeyond hlow⟩
  simp only [neighbour?] at hfound
  unfold deviation
  generalize decimalUnits rank / step * step = below at *
  generalize count * step = multiple at *
  generalize decimalUnits rank = exact at *
  split at hfound
  · split at hfound
    · have hunits := Option.some.inj hfound
      omega
    · next hbelow hneither =>
      have hunits := Option.some.inj hfound
      rcases hside with ⟨hbeyond, -⟩ | ⟨hbeyond, habove⟩
      · omega
      · have hworse := fun hbetter => hneither ⟨habove, hbetter⟩
        omega
  · next hbelow =>
    split at hfound
    · have hunits := Option.some.inj hfound
      rcases hside with ⟨-, hreads⟩ | ⟨hbeyond, -⟩
      · exact absurd hreads hbelow
      · omega
    · exact absurd hfound (Option.some_ne_none units).symm

/-- **The search finds a decimal at the greatest power of ten there is.** -/
theorem exists_foundAt_shortestFrom (rank bound : Nat) :
    ∃ place, FoundAt rank bound place (shortestFrom rank (decimalUnits rank) bound) := by
  have hexact := rankOfDecimal_decimalUnits rank
  induction bound with
  | zero =>
    refine ⟨0, Nat.le_refl 0, hexact, Nat.one_dvd _, ?_, fun _ _ _ hpower _ => hpower⟩
    intro other _ _
    rw [shortestFrom, deviation_exact]
    exact Nat.zero_le _
  | succ bound ih =>
    rw [shortestFrom]
    cases hfound : neighbour? rank (decimalUnits rank) (tenTo (bound + 1)) with
    | some units =>
      exact ⟨bound + 1, Nat.le_refl _, rankOfDecimal_of_neighbour hfound, dvd_of_neighbour hfound,
        fun other hother hdvd => deviation_of_neighbour (tenTo_pos _) hfound hother hdvd,
        fun _ _ _ hpower _ => hpower⟩
    | none =>
      obtain ⟨place, hplace⟩ := ih
      refine ⟨place, Nat.le_succ_of_le hplace.le_bound, hplace.readsBack, hplace.dvd,
        hplace.nearest, ?_⟩
      intro other power hother hpower hdvd
      rcases Nat.lt_or_eq_of_le hpower with hlt | rfl
      · exact hplace.greatest other power hother (Nat.le_of_lt_succ hlt) hdvd
      · exact absurd hfound (neighbour_ne_none (tenTo_pos _) hexact hother hdvd)

/-! ## Around a power of ten -/

/-- The digits of a number lie between two powers of ten. -/
theorem tenTo_le_of_digitCount {n : Nat} (h : 0 < n) :
    tenTo (digitCount n - 1) ≤ n ∧ n < tenTo (digitCount n) := by
  have hcount : 0 < digitCount n := Nat.length_toDigits_pos
  constructor
  · rcases Nat.eq_zero_or_pos (digitCount n - 1) with hzero | hpos
    · rw [hzero, tenTo_zero]
      exact h
    · rcases Nat.lt_or_ge n (tenTo (digitCount n - 1)) with hlt | hge
      · have hle : digitCount n ≤ digitCount n - 1 :=
          (Nat.length_toDigits_le_iff (by decide) hpos).mpr hlt
        omega
      · exact hge
  · exact (Nat.length_toDigits_le_iff (by decide) hcount).mp (Nat.le_refl _)

/-- Zero reads back as the least rank alone. -/
theorem pos_of_readsBack {rank units : Nat} (hexact : 0 < decimalUnits rank)
    (hreads : rankOfDecimal units = rank) : 0 < units := by
  rcases Nat.eq_zero_or_pos units with rfl | hpos
  · rw [rankOfDecimal, nearestRank_zero fivePower_pos] at hreads
    rw [← hreads, decimalUnits, magnitude_zero, Nat.zero_mul] at hexact
    exact hexact
  · exact hpos

theorem HasDigits.mono {m n units : Nat} (h : HasDigits m units) (hle : m ≤ n) :
    HasDigits n units := by
  obtain ⟨significand, power, hlt, hunits⟩ := h
  exact ⟨significand, power, Nat.lt_of_lt_of_le hlt (tenTo_mono hle), hunits⟩

/-- A decimal with few digits is small, unless it has many zeros behind them. -/
theorem lt_tenTo_of_not_dvd {significand power digits place : Nat}
    (hlt : significand < tenTo digits) (hdvd : ¬tenTo place ∣ significand * tenTo power) :
    power < place ∧ significand * tenTo power < tenTo (digits + power) := by
  constructor
  · rcases Nat.lt_or_ge power place with h | h
    · exact h
    · exact absurd (Nat.dvd_trans (Nat.pow_dvd_pow 10 h) (Nat.dvd_mul_left _ _)) hdvd
  · rw [tenTo_add]
    exact Nat.mul_lt_mul_of_pos_right hlt (tenTo_pos power)

namespace FoundAt

variable {rank bound place units : Nat}

/-- If a decimal that reads back reaches the power above the bound, then what is found is not beyond
that power and has one digit. -/
theorem hasDigits_one (h : FoundAt rank bound place units)
    (hhigh : decimalUnits rank < tenTo (bound + 1))
    {other : Nat} (hother : rankOfDecimal other = rank) (hbeyond : tenTo (bound + 1) ≤ other) :
    place = bound ∧ HasDigits 1 units := by
  have hreads : rankOfDecimal (tenTo (bound + 1)) = rank :=
    rankOfDecimal_of_between (rankOfDecimal_decimalUnits rank) hother (Nat.le_of_lt hhigh) hbeyond
  have hdvd : tenTo bound ∣ tenTo (bound + 1) := Nat.pow_dvd_pow 10 (Nat.le_succ bound)
  obtain rfl : place = bound :=
    Nat.le_antisymm h.le_bound (h.greatest _ bound hreads (Nat.le_refl bound) hdvd)
  refine ⟨rfl, ?_⟩
  have hnearest := h.nearest _ hreads hdvd
  obtain ⟨count, rfl⟩ := h.dvd
  have hunit := tenTo_pos place
  unfold deviation at hnearest
  rw [tenTo_succ] at hnearest hhigh
  have hcount : count ≤ 10 := by
    apply Nat.le_of_mul_le_mul_left _ hunit
    omega
  rcases Nat.lt_or_eq_of_le hcount with hlt | rfl
  · exact ⟨count, place, hlt, Nat.mul_comm _ _⟩
  · exact ⟨1, place + 1, by decide, by rw [tenTo_succ, Nat.one_mul]⟩

/-- A power of ten that parts what is found from another decimal that reads back is not above the
one at which that is found, unless what is found reaches the power above the bound. -/
theorem le_place_of_parted (h : FoundAt rank bound place units) {other power : Nat}
    (hother : rankOfDecimal other = rank) (hlow : other < tenTo power)
    (hhigh : tenTo power ≤ units) :
    power ≤ place ∨ tenTo (bound + 1) ≤ units := by
  have hreads : rankOfDecimal (tenTo power) = rank :=
    rankOfDecimal_of_between hother h.readsBack (Nat.le_of_lt hlow) hhigh
  rcases Nat.lt_or_ge bound power with hlt | hge
  · exact .inr (Nat.le_trans (tenTo_mono hlt) hhigh)
  · exact .inl (h.greatest _ power hreads hge (Nat.dvd_refl _))

/-- No decimal that reads back has fewer digits than the one that is found. -/
theorem fewest (h : FoundAt rank bound place units) (hlow : tenTo bound ≤ decimalUnits rank)
    (hhigh : decimalUnits rank < tenTo (bound + 1)) {other digits : Nat}
    (hother : rankOfDecimal other = rank) (hdigits : HasDigits digits other) :
    HasDigits digits units := by
  have hpos : 0 < other := pos_of_readsBack (Nat.lt_of_lt_of_le (tenTo_pos bound) hlow) hother
  obtain ⟨significand, power, hlt, rfl⟩ := hdigits
  have hsome : 1 ≤ digits := by
    rcases Nat.eq_zero_or_pos digits with rfl | hdigits
    · obtain rfl : significand = 0 := Nat.lt_one_iff.mp hlt
      rw [Nat.zero_mul] at hpos
      exact absurd hpos (Nat.lt_irrefl 0)
    · exact hdigits
  have hone : ∀ {beyond}, rankOfDecimal beyond = rank → tenTo (bound + 1) ≤ beyond →
      HasDigits digits units :=
    fun hreads hbeyond => (h.hasDigits_one hhigh hreads hbeyond).2.mono hsome
  obtain ⟨count, hcount⟩ := h.dvd
  rw [Nat.mul_comm] at hcount
  rcases Nat.lt_or_ge count (tenTo digits) with hfew | hmany
  · exact ⟨count, place, hfew, hcount⟩
  have hunits : tenTo (digits + place) ≤ units := by
    rw [hcount, tenTo_add]
    exact Nat.mul_le_mul_right _ hmany
  rcases Nat.lt_or_ge place power with hlater | hearlier
  · -- the other one has more zeros behind its digits, so it reaches beyond the bound
    have hbeyond : bound < power := by
      rcases Nat.lt_or_ge bound power with hgt | hle
      · exact hgt
      · have hplace := h.greatest _ power hother hle (Nat.dvd_mul_left _ _)
        omega
    have hreach : tenTo (bound + 1) ≤ significand * tenTo power :=
      Nat.le_trans (tenTo_mono hbeyond) (Nat.le_mul_of_pos_left _ (Nat.pos_of_mul_pos_right hpos))
    exact hone hother hreach
  · -- the other one is small, and a power of ten parts it from what is found
    have hsmall : significand * tenTo power < tenTo (digits + place) := by
      rw [tenTo_add]
      calc significand * tenTo power < tenTo digits * tenTo power :=
            Nat.mul_lt_mul_of_pos_right hlt (tenTo_pos power)
        _ ≤ tenTo digits * tenTo place := Nat.mul_le_mul_left _ (tenTo_mono hearlier)
    rcases h.le_place_of_parted hother hsmall hunits with hle | hreach
    · omega
    · exact hone h.readsBack hreach

/-- A decimal below the power of ten at which the search stops is no nearer than the one that is
found: the power lies between it and the exact decimal. -/
theorem nearest_of_lt (h : FoundAt rank bound place units)
    (hlow : tenTo bound ≤ decimalUnits rank)
    {other : Nat} (hother : rankOfDecimal other = rank) (hlt : other < tenTo place) :
    deviation rank units ≤ deviation rank other := by
  have hexact : tenTo place ≤ decimalUnits rank := Nat.le_trans (tenTo_mono h.le_bound) hlow
  have hreads : rankOfDecimal (tenTo place) = rank :=
    rankOfDecimal_of_between hother (rankOfDecimal_decimalUnits rank) (Nat.le_of_lt hlt) hexact
  have hnearest := h.nearest _ hreads (Nat.dvd_refl _)
  unfold deviation at hnearest ⊢
  generalize tenTo place = unit at hlt hexact hnearest
  omega

/-- No decimal with as few digits is nearer than the one that is found. -/
theorem nearest_of_hasDigits (h : FoundAt rank bound place units)
    (hlow : tenTo bound ≤ decimalUnits rank)
    (hhigh : decimalUnits rank < tenTo (bound + 1)) {other : Nat}
    (hother : rankOfDecimal other = rank)
    (hdigits : ∀ digits, HasDigits digits units → HasDigits digits other) :
    deviation rank units ≤ deviation rank other := by
  by_cases hdvd : tenTo place ∣ other
  · exact h.nearest other hother hdvd
  apply h.nearest_of_lt hlow hother
  have hpos : 0 < units := pos_of_readsBack (Nat.lt_of_lt_of_le (tenTo_pos bound) hlow) h.readsBack
  obtain ⟨count, hcount⟩ := h.dvd
  rw [Nat.mul_comm] at hcount
  have hsome : 0 < count := by
    rw [hcount] at hpos
    exact Nat.pos_of_mul_pos_right hpos
  obtain ⟨hleast, hmost⟩ := tenTo_le_of_digitCount hsome
  -- with no more digits than what is found and fewer zeros behind them, the other one is smaller
  have hsmaller : other < tenTo (digitCount count - 1 + place) := by
    obtain ⟨significand, power, hlt, rfl⟩ :=
      hdigits (digitCount count) ⟨count, place, hmost, hcount⟩
    obtain ⟨hpower, hother⟩ := lt_tenTo_of_not_dvd hlt hdvd
    have hdigitCount : 0 < digitCount count := Nat.length_toDigits_pos
    exact Nat.lt_of_lt_of_le hother (tenTo_mono (by omega))
  have hunits : tenTo (digitCount count - 1 + place) ≤ units := by
    rw [hcount, tenTo_add]
    exact Nat.mul_le_mul_right _ hleast
  rcases h.le_place_of_parted hother hsmaller hunits with hle | hreach
  · exact Nat.lt_of_lt_of_le hsmaller (tenTo_mono hle)
  · -- what is found has one digit, and so has the other one
    obtain ⟨significand, power, hlt, rfl⟩ :=
      hdigits 1 (h.hasDigits_one hhigh h.readsBack hreach).2
    obtain ⟨hpower, hother⟩ := lt_tenTo_of_not_dvd hlt hdvd
    exact Nat.lt_of_lt_of_le hother (tenTo_mono (by omega))

end FoundAt

/-- **A double is written with its shortest decimal.** -/
theorem shortest_isShortest (rank : Nat) : IsShortest rank (shortest rank) := by
  rcases Nat.eq_zero_or_pos (decimalUnits rank) with hzero | hpos
  · have hshortest : shortest rank = 0 := by
      simp only [shortest, hzero]
      rfl
    have hreads := rankOfDecimal_shortest rank
    rw [hshortest] at hreads ⊢
    refine ⟨hreads, ?_, ?_⟩
    · intro _ digits _ _
      exact ⟨0, 0, tenTo_pos digits, (Nat.zero_mul _).symm⟩
    · intro other _ _
      rw [← hzero, deviation_exact]
      exact Nat.zero_le _
  · obtain ⟨hlow, hhigh⟩ := tenTo_le_of_digitCount hpos
    have hcount : digitCount (decimalUnits rank) - 1 + 1 = digitCount (decimalUnits rank) :=
      Nat.sub_add_cancel Nat.length_toDigits_pos
    rw [← hcount] at hhigh
    obtain ⟨place, hplace⟩ := exists_foundAt_shortestFrom rank
        (digitCount (decimalUnits rank) - 1)
    exact ⟨hplace.readsBack, fun other digits hother hdigits =>
      hplace.fewest hlow hhigh hother hdigits,
      fun other hother hdigits => hplace.nearest_of_hasDigits hlow hhigh hother hdigits⟩

end TenantHost.Double
