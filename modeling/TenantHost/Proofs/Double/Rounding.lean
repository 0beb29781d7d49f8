import TenantHost.Double.Basic
/-!
# Rounding to the nearest rank

Rounding a quotient respects the order of quotients, and a quotient that is a magnitude is rounded
to the rank of it. So ranks are ordered as their magnitudes are, and two ranks that enclose a
quotient enclose the rank it is rounded to.
-/

namespace TenantHost.Double

/-! ## To the nearest natural number -/

section Quotient

variable {num den : Nat}

/-- What a quotient is rounded to is at most half a unit away. -/
theorem roundQuotient_nearest (h : 0 < den) :
    2 * (roundQuotient num den * den) ≤ 2 * num + den ∧
      2 * num ≤ 2 * (roundQuotient num den * den) + den := by
  have hdiv := Nat.div_add_mod' num den
  have hmod := Nat.mod_lt num h
  have hone : (num / den + 1) * den = num / den * den + den := Nat.succ_mul _ _
  have hparity : num / den % 2 = 0 ∨ num / den % 2 = 1 := by omega
  simp only [roundQuotient]
  split
  · constructor <;> omega
  · split
    · constructor <;> omega
    · rcases hparity with hp | hp <;> rw [hp]
      · rw [Nat.add_zero]
        constructor <;> omega
      · constructor <;> omega

/-- A quotient that is a whole number stays. -/
theorem roundQuotient_mul (k : Nat) (h : 0 < den) : roundQuotient (k * den) den = k := by
  simp only [roundQuotient]
  rw [Nat.mul_mod_left, Nat.mul_div_cancel k h, Nat.mul_zero, if_pos h]

/-- A half goes to the even neighbour. -/
theorem roundQuotient_of_half {k : Nat} (h : 0 < den) (hhalf : 2 * num = (2 * k + 1) * den) :
    roundQuotient num den = k + k % 2 := by
  have hsplit : (2 * k + 1) * den = 2 * (k * den) + den := by
    rw [Nat.succ_mul, Nat.mul_assoc]
  have hquotient : num / den = k := by
    apply Nat.div_eq_of_lt_le
    · omega
    · rw [Nat.succ_mul]
      omega
  have hmod : num % den = num - k * den := by
    rw [Nat.mod_def, hquotient, Nat.mul_comm]
  simp only [roundQuotient]
  rw [hquotient, hmod, if_neg (by omega), if_neg (by omega)]

/-- **Rounding respects the order of quotients.** -/
theorem roundQuotient_mono {a b c d : Nat} (hb : 0 < b) (hd : 0 < d) (h : a * d ≤ c * b) :
    roundQuotient a b ≤ roundQuotient c d := by
  rcases Nat.lt_or_ge (roundQuotient c d) (roundQuotient a b) with hlt | hle
  · exfalso
    -- both quotients would have to be the half between the two results, which is rounded in one way
    have hnear := (@roundQuotient_nearest a b hb).1
    have hnear' := (@roundQuotient_nearest c d hd).2
    generalize hk : roundQuotient c d = k at hlt hnear'
    have hstep : (k + 1) * b ≤ roundQuotient a b * b := Nat.mul_le_mul_right b hlt
    have hlow : (2 * k + 1) * b ≤ 2 * a := by
      have hsplit : (2 * k + 1) * b = 2 * (k * b) + b := by rw [Nat.succ_mul, Nat.mul_assoc]
      rw [Nat.succ_mul] at hstep
      omega
    have hhigh : 2 * c ≤ (2 * k + 1) * d := by
      have hsplit : (2 * k + 1) * d = 2 * (k * d) + d := by rw [Nat.succ_mul, Nat.mul_assoc]
      omega
    have hchain : (2 * k + 1) * b * d ≤ 2 * a * d := Nat.mul_le_mul_right d hlow
    have hchain' : 2 * c * b ≤ (2 * k + 1) * b * d := by
      rw [Nat.mul_right_comm _ b d]
      exact Nat.mul_le_mul_right b hhigh
    have hcross : 2 * a * d ≤ 2 * c * b := by
      rw [Nat.mul_assoc, Nat.mul_assoc]
      exact Nat.mul_le_mul_left 2 h
    have hhalf : 2 * a = (2 * k + 1) * b := Nat.eq_of_mul_eq_mul_right hd (by omega)
    have hhalf' : 2 * c = (2 * k + 1) * d := by
      apply Nat.eq_of_mul_eq_mul_right hb
      rw [Nat.mul_right_comm _ d b]
      omega
    rw [roundQuotient_of_half hb hhalf] at hlt
    rw [roundQuotient_of_half hd hhalf'] at hk
    omega
  · exact hle

end Quotient

/-! ## To the nearest rank -/

/-- How often the step has doubled where a quotient lies. -/
def doublingsAt (num den : Nat) : Nat :=
  (num / den).log2 - 52

theorem nearestRank_eq (num den : Nat) :
    nearestRank num den
      = roundQuotient num (den * twoTo (doublingsAt num den)) + doublingsAt num den * twoTo 52 :=
  rfl

/-- A quotient is less than `2 ^ 53` of the steps where it lies. -/
theorem lt_steps {num den : Nat} (h : 0 < den) :
    num < twoTo 53 * (den * twoTo (doublingsAt num den)) := by
  have hquotient : num / den < twoTo (53 + doublingsAt num den) := by
    rcases Nat.eq_zero_or_pos (num / den) with hz | hpos
    · rw [hz]
      exact twoTo_pos _
    · apply (Nat.log2_lt (Nat.ne_of_gt hpos)).mp
      simp only [doublingsAt]
      omega
  calc num < twoTo (53 + doublingsAt num den) * den := (Nat.div_lt_iff_lt_mul h).mp hquotient
    _ = twoTo 53 * (den * twoTo (doublingsAt num den)) := by
      rw [twoTo_add, Nat.mul_assoc, Nat.mul_comm den]

/-- From the first doubling on a quotient is at least `2 ^ 52` of the steps where it lies. -/
theorem steps_le {num den : Nat} (hpos : 0 < doublingsAt num den) :
    twoTo 52 * (den * twoTo (doublingsAt num den)) ≤ num := by
  have hquotient : twoTo (52 + doublingsAt num den) ≤ num / den := by
    have hne : num / den ≠ 0 := by
      intro hz
      rw [doublingsAt, hz] at hpos
      exact absurd hpos (by decide)
    apply (Nat.le_log2 hne).mp
    simp only [doublingsAt] at hpos ⊢
    omega
  calc twoTo 52 * (den * twoTo (doublingsAt num den))
      = twoTo (52 + doublingsAt num den) * den := by
        rw [twoTo_add, Nat.mul_assoc, Nat.mul_comm den]
    _ ≤ num / den * den := Nat.mul_le_mul_right den hquotient
    _ ≤ num := Nat.div_mul_le_self num den

theorem doublingsAt_mono {a b c d : Nat} (hb : 0 < b) (hd : 0 < d) (h : a * d ≤ c * b) :
    doublingsAt a b ≤ doublingsAt c d := by
  have hdiv : a / b ≤ c / d := by
    rw [Nat.le_div_iff_mul_le hd]
    apply Nat.le_of_mul_le_mul_right _ hb
    calc a / b * d * b = a / b * b * d := Nat.mul_right_comm _ _ _
      _ ≤ a * d := Nat.mul_le_mul_right d (Nat.div_mul_le_self a b)
      _ ≤ c * b := h
  have hlog : (a / b).log2 ≤ (c / d).log2 := by
    rcases Nat.eq_zero_or_pos (a / b) with hz | hpos
    · rw [hz]
      exact Nat.zero_le _
    · rw [Nat.le_log2 (by omega)]
      exact Nat.le_trans (Nat.log2_self_le (Nat.ne_of_gt hpos)) hdiv
  simp only [doublingsAt]
  omega

/-- A quotient is rounded to at most `2 ^ 53` of the steps where it lies. -/
theorem roundQuotient_le_steps {num den : Nat} (h : 0 < den) :
    roundQuotient num (den * twoTo (doublingsAt num den)) ≤ twoTo 53 := by
  have hstep : 0 < den * twoTo (doublingsAt num den) := Nat.mul_pos h (twoTo_pos _)
  calc roundQuotient num (den * twoTo (doublingsAt num den))
      ≤ roundQuotient (twoTo 53 * (den * twoTo (doublingsAt num den)))
          (den * twoTo (doublingsAt num den)) := by
        apply roundQuotient_mono hstep hstep
        exact Nat.mul_le_mul_right _ (Nat.le_of_lt (lt_steps h))
    _ = twoTo 53 := roundQuotient_mul _ hstep

/-- From the first doubling on a quotient is rounded to at least `2 ^ 52` of the steps where it
lies. -/
theorem steps_le_roundQuotient {num den : Nat} (h : 0 < den) (hpos : 0 < doublingsAt num den) :
    twoTo 52 ≤ roundQuotient num (den * twoTo (doublingsAt num den)) := by
  have hstep : 0 < den * twoTo (doublingsAt num den) := Nat.mul_pos h (twoTo_pos _)
  calc twoTo 52
      = roundQuotient (twoTo 52 * (den * twoTo (doublingsAt num den)))
          (den * twoTo (doublingsAt num den)) := (roundQuotient_mul _ hstep).symm
    _ ≤ roundQuotient num (den * twoTo (doublingsAt num den)) := by
        apply roundQuotient_mono hstep hstep
        exact Nat.mul_le_mul_right _ (steps_le hpos)

/-- **Rounding to a rank respects the order of quotients.** -/
theorem nearestRank_mono {a b c d : Nat} (hb : 0 < b) (hd : 0 < d) (h : a * d ≤ c * b) :
    nearestRank a b ≤ nearestRank c d := by
  rw [nearestRank_eq, nearestRank_eq]
  rcases Nat.lt_or_ge (doublingsAt a b) (doublingsAt c d) with hlt | hge
  · -- the upper quotient lies in a later stretch, which begins where the lower one ends
    have hlow := @roundQuotient_le_steps a b hb
    have hhigh := @steps_le_roundQuotient c d hd (by omega)
    have hnext : (doublingsAt a b + 1) * twoTo 52 ≤ doublingsAt c d * twoTo 52 :=
      Nat.mul_le_mul_right _ hlt
    rw [Nat.succ_mul] at hnext
    have hdouble : twoTo 53 = twoTo 52 * 2 := rfl
    omega
  · -- both lie in the same stretch
    have hsame : doublingsAt c d = doublingsAt a b :=
      Nat.le_antisymm hge (doublingsAt_mono hb hd h)
    rw [hsame]
    apply Nat.add_le_add_right
    apply roundQuotient_mono (Nat.mul_pos hb (twoTo_pos _)) (Nat.mul_pos hd (twoTo_pos _))
    rw [← Nat.mul_assoc, ← Nat.mul_assoc]
    exact Nat.mul_le_mul_right _ h

/-! ## Magnitudes -/

theorem twoTo_stretch : twoTo 52 = 4503599627370496 := rfl

/-- The step of a rank has doubled just as often where its magnitude lies. -/
theorem doublingsAt_magnitude (rank : Nat) {den : Nat} (h : 0 < den) :
    doublingsAt (magnitude rank * den) den = rank / twoTo 52 - 1 := by
  simp only [doublingsAt, magnitude]
  rw [Nat.mul_div_cancel _ h]
  generalize he : rank / twoTo 52 - 1 = e
  generalize hm : rank - e * twoTo 52 = m
  rw [twoTo_stretch] at he hm
  have hbelow : m < twoTo 53 := by
    show m < 9007199254740992
    omega
  have hlog : (m * twoTo e).log2 < 53 + e ∨ m * twoTo e = 0 := by
    rcases Nat.eq_zero_or_pos (m * twoTo e) with hz | hpos
    · exact .inr hz
    · left
      apply (Nat.log2_lt (Nat.ne_of_gt hpos)).mpr
      show m * twoTo e < twoTo (53 + e)
      rw [twoTo_add]
      exact Nat.mul_lt_mul_of_pos_right hbelow (twoTo_pos e)
  rcases Nat.eq_zero_or_pos e with rfl | hpos
  · rcases hlog with hlog | hz
    · omega
    · rw [hz]
      rfl
  · have habove : twoTo 52 ≤ m := by
      show 4503599627370496 ≤ m
      omega
    have hle : twoTo (52 + e) ≤ m * twoTo e := by
      rw [twoTo_add]
      exact Nat.mul_le_mul_right _ habove
    have hne : m * twoTo e ≠ 0 := Nat.ne_of_gt (Nat.lt_of_lt_of_le (twoTo_pos _) hle)
    have hlow : 52 + e ≤ (m * twoTo e).log2 := (Nat.le_log2 hne).mpr hle
    rcases hlog with hlog | hz
    · omega
    · exact absurd hz hne

/-- **A magnitude is rounded to its own rank.** -/
theorem nearestRank_magnitude (rank : Nat) {den : Nat} (h : 0 < den) :
    nearestRank (magnitude rank * den) den = rank := by
  rw [nearestRank_eq, doublingsAt_magnitude rank h]
  simp only [magnitude]
  generalize he : rank / twoTo 52 - 1 = e
  have hwhole : (rank - e * twoTo 52) * twoTo e * den
      = (rank - e * twoTo 52) * (den * twoTo e) := by
    rw [Nat.mul_assoc, Nat.mul_comm (twoTo e)]
  rw [hwhole, roundQuotient_mul _ (Nat.mul_pos h (twoTo_pos e))]
  rw [twoTo_stretch] at he ⊢
  omega

/-- **Ranks are ordered as their magnitudes are.** -/
theorem magnitude_le_magnitude_iff {j k : Nat} : magnitude j ≤ magnitude k ↔ j ≤ k := by
  have hrank : ∀ rank, nearestRank (magnitude rank * 1) 1 = rank :=
    fun rank => nearestRank_magnitude rank Nat.one_pos
  have hmono : ∀ {j k : Nat}, magnitude j ≤ magnitude k → j ≤ k := by
    intro j k h
    rw [← hrank j, ← hrank k]
    apply nearestRank_mono Nat.one_pos Nat.one_pos
    rw [Nat.mul_one, Nat.mul_one, Nat.mul_one, Nat.mul_one]
    exact h
  constructor
  · exact hmono
  · intro h
    rcases Nat.le_total (magnitude j) (magnitude k) with hle | hge
    · exact hle
    · have hsame : j = k := Nat.le_antisymm h (hmono hge)
      exact Nat.le_of_eq (congrArg magnitude hsame)

theorem magnitude_lt_magnitude_iff {j k : Nat} : magnitude j < magnitude k ↔ j < k := by
  rw [← Nat.not_le, ← Nat.not_le, magnitude_le_magnitude_iff]

/-- A rank whose magnitude is not above a quotient is not above the rank that it is rounded to. -/
theorem le_nearestRank {rank num den : Nat} (hden : 0 < den) (h : magnitude rank * den ≤ num) :
    rank ≤ nearestRank num den := by
  calc rank = nearestRank (magnitude rank * den) den := (nearestRank_magnitude rank hden).symm
    _ ≤ nearestRank num den := nearestRank_mono hden hden (Nat.mul_le_mul_right den h)

/-- A rank whose magnitude is not below a quotient is not below the rank that it is rounded to. -/
theorem nearestRank_le {rank num den : Nat} (hden : 0 < den) (h : num ≤ magnitude rank * den) :
    nearestRank num den ≤ rank := by
  calc nearestRank num den
      ≤ nearestRank (magnitude rank * den) den :=
        nearestRank_mono hden hden (Nat.mul_le_mul_right den h)
    _ = rank := nearestRank_magnitude rank hden

end TenantHost.Double
