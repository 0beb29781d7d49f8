import TenantHost.Proofs.Number.Rounding
/-!
# Quotients that are rounded as if once

On its way to a number of hundredths a quotient is rounded three times: to a double, to the shortest
decimal of that double, and to hundredths. The result is the same as if the quotient had been
rounded to hundredths at once, unless it lies so close below a half of a hundredth that the two
become one double. Quotients of small numbers keep a distance from every decimal they are not equal
to, and that distance is more than the step of the doubles there.
-/

namespace TenantHost.Double

/-! ## Steps apart -/

theorem magnitude_nearestRank_mul {num den : Nat} (h : 0 < den) :
    magnitude (nearestRank num den) * den
      = roundQuotient num (den * twoTo (doublingsAt num den))
        * (den * twoTo (doublingsAt num den)) := by
  rw [magnitude_nearestRank h, Nat.mul_assoc, Nat.mul_comm (twoTo _)]

/-- What a quotient is rounded to is at most half a step away from it. -/
theorem magnitude_nearestRank_near {num den : Nat} (h : 0 < den) :
    2 * (magnitude (nearestRank num den) * den) ≤ 2 * num + den * twoTo (doublingsAt num den) ∧
      2 * num ≤ 2 * (magnitude (nearestRank num den) * den) + den * twoTo
        (doublingsAt num den) := by
  rw [magnitude_nearestRank_mul h]
  exact roundQuotient_nearest (Nat.mul_pos h (twoTo_pos _))

/-- If a quotient is rounded up, every lower rank lies at least a step below the result. -/
theorem step_below_nearestRank {num den rank : Nat} (h : 0 < den)
    (hup : num < magnitude (nearestRank num den) * den) (hrank : rank < nearestRank num den) :
    magnitude rank * den + den * twoTo (doublingsAt num den)
      ≤ magnitude (nearestRank num den) * den := by
  have hmost := @roundQuotient_le_steps num den h
  have hleast := @steps_le num den
  rw [magnitude_nearestRank_mul h] at hup ⊢
  rw [nearestRank_eq] at hrank
  generalize doublingsAt num den = doublings at hleast hmost hup hrank ⊢
  generalize roundQuotient num (den * twoTo doublings) = count at hmost hup hrank ⊢
  cases count with
  | zero =>
    rw [Nat.zero_mul] at hup
    exact absurd hup (Nat.not_lt_zero _)
  | succ count =>
    have hstretch : 0 < doublings → twoTo 52 ≤ count := by
      intro hpos
      exact Nat.le_of_lt_succ (Nat.lt_of_mul_lt_mul_right (Nat.lt_of_le_of_lt (hleast hpos) hup))
    have hbefore := magnitude_of_steps (Nat.le_of_succ_le hmost) hstretch
    have hmagnitude : magnitude rank ≤ count * twoTo doublings := by
      rw [← hbefore]
      exact magnitude_le_magnitude_iff.mpr (by omega)
    calc magnitude rank * den + den * twoTo doublings
        ≤ count * twoTo doublings * den + den * twoTo doublings :=
          Nat.add_le_add_right (Nat.mul_le_mul_right den hmagnitude) _
      _ = (count + 1) * (den * twoTo doublings) := by
          rw [Nat.succ_mul, Nat.mul_assoc, Nat.mul_comm (twoTo doublings)]

/-- If a quotient is rounded down, every higher rank lies at least a step above the result. -/
theorem step_above_nearestRank {num den rank : Nat} (h : 0 < den)
    (hdown : magnitude (nearestRank num den) * den < num) (hrank : nearestRank num den < rank) :
    magnitude (nearestRank num den) * den + den * twoTo (doublingsAt num den)
      ≤ magnitude rank * den := by
  have hmost := @lt_steps num den h
  have hleast := @steps_le_roundQuotient num den h
  rw [magnitude_nearestRank_mul h] at hdown ⊢
  rw [nearestRank_eq] at hrank
  generalize doublingsAt num den = doublings at hleast hmost hdown hrank ⊢
  generalize roundQuotient num (den * twoTo doublings) = count at hleast hdown hrank ⊢
  have hcount : count < twoTo 53 := Nat.lt_of_mul_lt_mul_right (Nat.lt_trans hdown hmost)
  have hafter : magnitude (count + 1 + doublings * twoTo 52) = (count + 1) * twoTo doublings :=
    magnitude_of_steps hcount fun hpos => Nat.le_succ_of_le (hleast hpos)
  have hmagnitude : (count + 1) * twoTo doublings ≤ magnitude rank := by
    rw [← hafter]
    exact magnitude_le_magnitude_iff.mpr (by omega)
  calc count * (den * twoTo doublings) + den * twoTo doublings
      = (count + 1) * twoTo doublings * den := by
        rw [← Nat.succ_mul, Nat.mul_assoc, Nat.mul_comm (twoTo doublings)]
    _ ≤ magnitude rank * den := Nat.mul_le_mul_right den hmagnitude

/-- **No rank is nearer to a quotient than the one that it is rounded to.** -/
theorem nearestRank_nearest {num den : Nat} (h : 0 < den) (rank : Nat) :
    ((magnitude (nearestRank num den) * den : Nat) - num : Int).natAbs
      ≤ ((magnitude rank * den : Nat) - num : Int).natAbs := by
  obtain ⟨hlow, hhigh⟩ := @magnitude_nearestRank_near num den h
  rcases Nat.lt_trichotomy rank (nearestRank num den) with hlt | rfl | hgt
  · have hbelow : magnitude rank * den ≤ magnitude (nearestRank num den) * den :=
      Nat.mul_le_mul_right den (magnitude_le_magnitude_iff.mpr (Nat.le_of_lt hlt))
    rcases Nat.lt_or_ge num (magnitude (nearestRank num den) * den) with hup | hdown
    · have hstep := step_below_nearestRank h hup hlt
      omega
    · omega
  · exact Nat.le_refl _
  · have habove : magnitude (nearestRank num den) * den ≤ magnitude rank * den :=
      Nat.mul_le_mul_right den (magnitude_le_magnitude_iff.mpr (Nat.le_of_lt hgt))
    rcases Nat.lt_or_ge (magnitude (nearestRank num den) * den) num with hdown | hup
    · have hstep := step_above_nearestRank h hdown hgt
      omega
    · omega

/-- **Quotients that are more than a step apart are rounded to different ranks.** -/
theorem nearestRank_lt_of_step {a b c d : Nat} (hb : 0 < b) (hd : 0 < d)
    (h : a * d + b * d * twoTo (doublingsAt c d) < c * b) : nearestRank a b < nearestRank c d := by
  rcases Nat.lt_or_ge (nearestRank a b) (nearestRank c d) with hlt | hge
  · exact hlt
  · -- if not, the one result lies within half a step of the first quotient and of the second
    exfalso
    have hcross : a * d ≤ c * b := Nat.le_trans (Nat.le_add_right _ _) (Nat.le_of_lt h)
    have hsteps : twoTo (doublingsAt a b) ≤ twoTo (doublingsAt c d) :=
      twoTo_mono (doublingsAt_mono hb hd hcross)
    have hlow := (@magnitude_nearestRank_near a b hb).1
    have hhigh := (@magnitude_nearestRank_near c d hd).2
    have hmagnitude := magnitude_le_magnitude_iff.mpr hge
    generalize twoTo (doublingsAt a b) = step at hlow hsteps
    generalize twoTo (doublingsAt c d) = step' at h hhigh hsteps
    generalize magnitude (nearestRank a b) = result at hlow hmagnitude
    generalize magnitude (nearestRank c d) = result' at hhigh hmagnitude
    have hfirst : 2 * (result * b) * d ≤ (2 * a + b * step') * d := by
      apply Nat.mul_le_mul_right
      exact Nat.le_trans hlow (Nat.add_le_add_left (Nat.mul_le_mul_left b hsteps) _)
    have hsecond : 2 * c * b ≤ (2 * (result * d) + d * step') * b := by
      apply Nat.mul_le_mul_right
      exact Nat.le_trans hhigh (Nat.add_le_add_right
        (Nat.mul_le_mul_left 2 (Nat.mul_le_mul_right d hmagnitude)) _)
    grind

/-! ## Thousandths -/

theorem doublingsAt_le {num den doublings : Nat}
    (h : num < den * twoTo (53 + doublings)) : doublingsAt num den ≤ doublings := by
  have hquotient : num / den < twoTo (53 + doublings) := Nat.div_lt_of_lt_mul h
  unfold doublingsAt
  rcases Nat.eq_zero_or_pos (num / den) with hzero | hpos
  · rw [hzero]
    exact Nat.zero_le _
  · have hlog : (num / den).log2 < 53 + doublings :=
      (Nat.log2_lt (Nat.ne_of_gt hpos)).mpr hquotient
    omega

/-- **A quotient below a number of thousandths is rounded to a lower rank**, if the distance of the
two is more than the step of the doubles below the power of two that bounds the thousandths. -/
theorem nearestRank_lt_thousandths {a b count : Nat} (gap power : Nat) (hb : 0 < b)
    (hcount : count < 1000 * twoTo power) (hgap : 1000 * a + gap ≤ count * b)
    (hsmall : 1000 * b * twoTo power < gap * twoTo 53) :
    nearestRank (a * twoTo 1074) b < rankOfDecimal (count * tenTo 1071) := by
  have hten : tenTo 3 = 1000 := rfl
  have hunit : twoTo 1074 = twoTo 53 * twoTo 1021 := twoTo_add 53 1021
  have hpos := twoTo_pos 1021
  rw [rankOfDecimal_places (Nat.add_comm 1071 3), hten]
  apply nearestRank_lt_of_step hb (by decide)
  have hdoublings : doublingsAt (count * twoTo 1074) 1000 ≤ 1021 + power := by
    apply doublingsAt_le
    rw [← Nat.add_assoc, twoTo_add (53 + 1021), Nat.mul_comm (twoTo (53 + 1021)),
      ← Nat.mul_assoc]
    exact Nat.mul_lt_mul_of_pos_right hcount (twoTo_pos 1074)
  have hstep : twoTo (doublingsAt (count * twoTo 1074) 1000) ≤ twoTo 1021 * twoTo power := by
    rw [← twoTo_add]
    exact twoTo_mono hdoublings
  generalize twoTo (doublingsAt (count * twoTo 1074) 1000) = step at hstep
  rw [hunit]
  generalize twoTo 1021 = unit at hstep hpos
  calc a * (twoTo 53 * unit) * 1000 + b * 1000 * step
      ≤ a * (twoTo 53 * unit) * 1000 + b * 1000 * (unit * twoTo power) :=
        Nat.add_le_add_left (Nat.mul_le_mul_left _ hstep) _
    _ = a * (twoTo 53 * unit) * 1000 + 1000 * b * twoTo power * unit := by grind
    _ < a * (twoTo 53 * unit) * 1000 + gap * twoTo 53 * unit :=
        Nat.add_lt_add_left (Nat.mul_lt_mul_of_pos_right hsmall hpos) _
    _ = (1000 * a + gap) * (twoTo 53 * unit) := by grind
    _ ≤ count * b * (twoTo 53 * unit) := Nat.mul_le_mul_right _ hgap
    _ = count * (twoTo 53 * unit) * b := Nat.mul_right_comm _ _ _

/-- The numbers of thousandths below this one are no step of the doubles apart from each other. -/
def thousandthsLimit : Nat := 1000 * twoTo 16

/-- Two numbers of thousandths become two doubles. -/
theorem rankOfDecimal_thousandths_lt {count : Nat} (h : count + 1 < thousandthsLimit) :
    rankOfDecimal (count * tenTo 1071) < rankOfDecimal ((count + 1) * tenTo 1071) := by
  have hcount : rankOfDecimal (count * tenTo 1071) = nearestRank (count * twoTo 1074) 1000 :=
    rankOfDecimal_places (Nat.add_comm 1071 3) count
  rw [hcount]
  apply nearestRank_lt_thousandths 1000 16 (by decide) h
  · omega
  · decide

/-- The double of a number of thousandths is not written as less. -/
theorem le_shortest_thousandths {count : Nat} (hpos : 0 < count)
    (h : count + 1 < thousandthsLimit) :
    (count + 1) * tenTo 1071 ≤ shortest (rankOfDecimal ((count + 1) * tenTo 1071)) := by
  have hbefore := rankOfDecimal_thousandths_lt h
  generalize hrank : rankOfDecimal ((count + 1) * tenTo 1071) = rank at hbefore
  have hexact : tenTo 1071 ≤ decimalUnits rank := by
    have hlt : count * tenTo 1071 < decimalUnits rank := by
      rcases Nat.lt_or_ge (count * tenTo 1071) (decimalUnits rank) with hlt | hge
      · exact hlt
      · have hmono := rankOfDecimal_mono hge
        rw [rankOfDecimal_decimalUnits] at hmono
        omega
    exact Nat.le_trans (Nat.le_mul_of_pos_left _ hpos) (Nat.le_of_lt hlt)
  obtain ⟨written, hwritten⟩ := tenTo_dvd_shortest hrank (Nat.dvd_mul_left _ _) hexact
  rw [Nat.mul_comm] at hwritten
  -- what is written is a number of thousandths too, and a lower one becomes a lower double
  have hlow : count * tenTo 1071 < shortest rank := lt_shortest hbefore
  rw [hwritten] at hlow ⊢
  exact Nat.mul_le_mul_right _ (Nat.lt_of_mul_lt_mul_right hlow)

/-! ## Hundredths of a quotient -/

/-- The number of hundredths nearest to a quotient, a half up. -/
def halfUp (num den : Nat) : Nat :=
  (200 * num + den) / (2 * den)

theorem halfUp_mul_le (num den : Nat) : halfUp num den * (2 * den) ≤ 200 * num + den :=
  Nat.div_mul_le_self _ _

theorem lt_halfUp_mul (num : Nat) {den : Nat} (h : 0 < den) :
    200 * num + den < (halfUp num den + 1) * (2 * den) :=
  Nat.lt_mul_of_div_lt (Nat.lt_succ_self _) (by omega)

/-- A half of a hundredth is rounded up. -/
theorem hundredths_half (count : Nat) : hundredths ((10 * count + 5) * tenTo 1071) = count + 1 := by
  have hpos := tenTo_pos 1071
  rw [hundredths, tenTo_succ 1071]
  generalize tenTo 1071 = unit at hpos
  apply Nat.div_eq_of_lt_le
  · grind
  · grind

/-- The double nearest to a quotient that is rounded to hundredths first, a half up. -/
def nearestHundredth (num den : Nat) : Double :=
  ofRatio false (halfUp num den) 100

/-- **A quotient is rounded to hundredths as if it were rounded once**, if it is not rounded to the
same double as the half of a hundredth that lies above it. -/
theorem hundredths_shortest_nearestRank {num den : Nat} (hden : 0 < den)
    (hlimit : 10 * halfUp num den < thousandthsLimit)
    (hnext : nearestRank (num * twoTo 1074) den
      < rankOfDecimal ((10 * halfUp num den + 5) * tenTo 1071)) :
    hundredths (shortest (nearestRank (num * twoTo 1074) den)) = halfUp num den := by
  have hbelow := halfUp_mul_le num den
  generalize halfUp num den = count at hlimit hnext hbelow ⊢
  apply Nat.le_antisymm
  · have hwritten := shortest_lt hnext
    have hcount : hundredths (shortest (nearestRank (num * twoTo 1074) den)) < count + 1 := by
      rw [hundredths, Nat.div_lt_iff_lt_mul (tenTo_pos 1072), tenTo_succ 1071]
      generalize tenTo 1071 = unit at hwritten ⊢
      grind
    exact Nat.le_of_lt_succ hcount
  · cases count with
    | zero => exact Nat.zero_le _
    | succ count =>
      have hhalf : rankOfDecimal ((10 * count + 5) * tenTo 1071)
          ≤ nearestRank (num * twoTo 1074) den := by
        rw [rankOfDecimal_places (Nat.add_comm 1071 3)]
        apply nearestRank_mono (tenTo_pos 3) hden
        have hten : tenTo 3 = 1000 := rfl
        rw [hten, Nat.mul_right_comm, Nat.mul_right_comm num]
        apply Nat.mul_le_mul_right
        grind
      have hwritten : (10 * count + 5) * tenTo 1071 ≤ shortest
          (nearestRank (num * twoTo 1074) den) := by
        have hleast : 0 < 10 * count + 4 := by omega
        exact Nat.le_trans (le_shortest_thousandths hleast (by omega)) (shortest_mono hhalf)
      rw [← hundredths_half count]
      exact hundredths_mono hwritten

/-- So the double nearest to the quotient is rounded to the double nearest to the rounded
quotient. -/
theorem roundHundredths_ofRatio {num den : Nat} (hden : 0 < den)
    (hlimit : 10 * halfUp num den < thousandthsLimit)
    (hnext : nearestRank (num * twoTo 1074) den
      < rankOfDecimal ((10 * halfUp num den + 5) * tenTo 1071)) :
    (ofRatio false num den).isFinite = true ∧
      (ofRatio false num den).roundHundredths? = some (nearestHundredth num den) := by
  have hlarge : thousandthsLimit ≤ hundredthsLimit := by decide
  have hdecimal : (10 * halfUp num den + 5) * tenTo 1071 ≤ hundredthsLimit * tenTo 1072 := by
    rw [tenTo_succ 1071, Nat.mul_comm (tenTo 1071), ← Nat.mul_assoc]
    apply Nat.mul_le_mul_right
    omega
  have hrank : nearestRank (num * twoTo 1074) den < rankLimit := by
    rw [← refusedDecimal_add] at hdecimal
    exact Nat.lt_trans hnext
      (Nat.lt_of_le_of_lt (rankOfDecimal_mono hdecimal) rankOfDecimal_lt_rankLimit)
  have hcount : halfUp num den < hundredthsLimit := by omega
  have hplaces : rankOfDecimal (halfUp num den * tenTo 1072)
      = nearestRank (halfUp num den * twoTo 1074) 100 :=
    rankOfDecimal_places (Nat.add_comm 1072 2) _
  constructor
  · rw [ofRatio, isFinite_ofRank]
    exact decide_eq_true hrank
  · rw [ofRatio, ofRank, dif_pos hrank, roundHundredths?,
      hundredths_shortest_nearestRank hden hlimit hnext, ofHundredths?, if_pos hcount, hplaces,
      nearestHundredth, ofRatio]

end TenantHost.Double
