import TenantHost.Proofs.Number.Rounding
import TenantHost.Proofs.Resource.Figures
/-!
# Amounts of memory

A number of bytes is divided by the bytes of a gigabyte, rounded to a double, and rounded to
hundredths. Where that comes to is a matter of where the number of bytes stands, integers and
doubles alike, and each step keeps the order. So more memory never looks like less.
-/

namespace TenantHost

/-! ## Quotients -/

namespace Double

/-- The double nearest to a quotient, where that is finite. -/
theorem place_ofRatio {negative : Bool} {num den : Nat}
    (h : nearestRank (num * twoTo 1074) den < rankLimit) :
    (ofRatio negative num den).place?
      = some (.units (signed negative (magnitude (nearestRank (num * twoTo 1074) den)))) := by
  unfold ofRatio ofRank
  rw [dif_pos h]
  rfl

/-- An amount of bytes in gigabytes, both in units of `2 ^ -1074`: the double nearest to the
quotient. -/
def gigabytes (bytes : Int) : Int :=
  signed (bytes < 0) (magnitude (nearestRank bytes.natAbs (twoTo 30)))

/-- More bytes are no fewer gigabytes. -/
theorem gigabytes_mono {m n : Int} (h : m ≤ n) : gigabytes m ≤ gigabytes n := by
  have hgigabyte := twoTo_pos 30
  have hmono : ∀ j k, j ≤ k →
      magnitude (nearestRank j (twoTo 30)) ≤ magnitude (nearestRank k (twoTo 30)) := by
    intro j k hjk
    apply magnitude_le_magnitude_iff.mpr
    exact nearestRank_mono hgigabyte hgigabyte (Nat.mul_le_mul_right _ hjk)
  exact signed_mono hmono h

/-- There are fewer gigabytes than bytes. -/
theorem nearestRank_gigabyte_le (bytes : Nat) :
    nearestRank bytes (twoTo 30) ≤ nearestRank bytes 1 := by
  apply nearestRank_mono (twoTo_pos 30) Nat.one_pos
  rw [Nat.mul_one]
  exact Nat.le_mul_of_pos_right _ (twoTo_pos 30)

/-- The gigabytes of less than `10 ^ 26` bytes are not too large to be rounded to hundredths. -/
theorem nearestRank_refusedFrom_lt : nearestRank refusedFrom (twoTo 30) < refusedRank := by
  decide +kernel

theorem natAbs_gigabytes_lt {bytes : Int} (h : bytes.natAbs < refusedFrom) :
    (gigabytes bytes).natAbs < refusedFrom := by
  have hgigabyte := twoTo_pos 30
  rw [gigabytes, Number.natAbs_signed]
  apply lt_refusedRank_iff.mp
  calc nearestRank bytes.natAbs (twoTo 30)
      ≤ nearestRank refusedFrom (twoTo 30) :=
        nearestRank_mono hgigabyte hgigabyte (Nat.mul_le_mul_right _ (Nat.le_of_lt h))
    _ < refusedRank := nearestRank_refusedFrom_lt

end Double

namespace Monitor

/-! ## Gigabytes -/

/-- The double of a gigabyte is exact. -/
theorem exists_gigabyte_toDouble :
    ∃ rank : Fin Double.rankLimit, gigabyte.toDouble = .ok (.finite false rank) ∧
      Double.magnitude rank = twoTo 30 * twoTo 1074 := by
  have hmagnitude : Double.magnitude ((1052 + 1) * twoTo 52) = twoTo 30 * twoTo 1074 := by
    rw [Double.magnitude_twoTo, ← twoTo_add]
  have hrank : Double.nearestRank (twoTo 30 * twoTo 1074) 1 = (1052 + 1) * twoTo 52 := by
    rw [← hmagnitude]
    exact Double.nearestRank_magnitude_one _
  have hlimit : (1052 + 1) * twoTo 52 < Double.rankLimit := by decide
  have hsmall : (twoTo 30 : Int).natAbs < Double.conversionLimit := by
    rw [Int.natAbs_natCast]
    exact Nat.lt_of_lt_of_le (by decide) Number.tenTo_le_conversionLimit
  refine ⟨⟨(1052 + 1) * twoTo 52, hlimit⟩, ?_, hmagnitude⟩
  have hdouble : Double.ofInt (twoTo 30) = .finite false ⟨(1052 + 1) * twoTo 52, hlimit⟩ := by
    have hsign : decide ((twoTo 30 : Int) < 0) = false :=
      decide_eq_false (Int.not_lt.mpr (Int.natCast_nonneg _))
    rw [Double.ofInt, Double.ofRatio, hsign, Int.natAbs_natCast, hrank, Double.ofRank,
      dif_pos hlimit]
  rw [gigabyte, Number.toDouble_int, if_pos hsmall, hdouble]

theorem exists_quotient_gigabyte_int {bytes n : Int}
    (hbytes : (Number.int bytes).place? = some (.units n))
    (hsmall : bytes.natAbs < Double.conversionLimit) :
    ∃ d, quotient (.int bytes) gigabyte = .ok (.real d) ∧
      (Number.real d).place? = some (.units (Double.gigabytes n)) := by
  obtain ⟨hsign, hamount⟩ := Number.of_place_int hbytes
  have hlimit : Double.nearestRank (bytes.natAbs * twoTo 1074) (twoTo 30) < Double.rankLimit := by
    calc Double.nearestRank (bytes.natAbs * twoTo 1074) (twoTo 30)
        ≤ Double.nearestRank (bytes.natAbs * twoTo 1074) 1 := Double.nearestRank_gigabyte_le _
      _ < Double.rankLimit := Double.nearestRank_lt_rankLimit_iff.mpr hsmall
  have hfinite : (Double.ofRatio (decide (bytes < 0)) bytes.natAbs (twoTo 30)).isFinite = true := by
    rw [Double.ofRatio, Double.isFinite_ofRank]
    exact decide_eq_true hlimit
  refine ⟨Double.ofRatio (decide (bytes < 0)) bytes.natAbs (twoTo 30), ?_, ?_⟩
  · have hpositive : decide ((twoTo 30 : Int) < 0) = false :=
      decide_eq_false (Int.not_lt.mpr (Int.natCast_nonneg _))
    rw [quotient, gigabyte, Number.div, hpositive, Bool.bne_false, Int.natAbs_natCast,
      Number.within,
      if_pos hfinite]
  · rw [Number.place?, Double.place_ofRatio hlimit, Double.gigabytes, hsign, hamount]

theorem exists_quotient_gigabyte_real (negative : Bool) (rank : Fin Double.rankLimit) :
    ∃ d, quotient (.real (.finite negative rank)) gigabyte = .ok (.real d) ∧
      (Number.real d).place?
        = some (.units (Double.gigabytes (Double.signed negative (Double.magnitude rank)))) := by
  obtain ⟨unit, hdouble, hmagnitude⟩ := exists_gigabyte_toDouble
  have hgigabyte := twoTo_pos 30
  have hne : ¬ unit.val = 0 := by
    intro hzero
    rw [hzero, Double.magnitude_zero] at hmagnitude
    exact absurd hmagnitude (Nat.ne_of_lt (Nat.mul_pos hgigabyte (twoTo_pos 1074)))
  -- the unit of the amounts is a common factor of the two magnitudes
  have hcommon : Double.nearestRank (Double.magnitude rank * twoTo 1074) (Double.magnitude unit)
      = Double.nearestRank (Double.magnitude rank) (twoTo 30) := by
    rw [hmagnitude]
    exact Double.nearestRank_mul_right hgigabyte (twoTo_pos 1074)
  have hlimit : Double.nearestRank (Double.magnitude rank * twoTo 1074) (Double.magnitude unit)
      < Double.rankLimit := by
    rw [hcommon]
    calc Double.nearestRank (Double.magnitude rank) (twoTo 30)
        ≤ Double.nearestRank (Double.magnitude rank) 1 := Double.nearestRank_gigabyte_le _
      _ = rank := Double.nearestRank_magnitude_one rank
      _ < Double.rankLimit := rank.isLt
  refine ⟨Double.ofRatio negative (Double.magnitude rank) (Double.magnitude unit), ?_, ?_⟩
  · have hdiv : (Double.finite negative rank).div (.finite false unit)
        = Double.ofRatio negative (Double.magnitude rank) (Double.magnitude unit) := by
      rw [Double.div, if_neg hne, Bool.bne_false]
    rw [quotient, Number.div_real, hdouble, ← hdiv]
    rfl
  · have hzero : Double.magnitude (Double.nearestRank 0 (twoTo 30)) = 0 := by
      rw [Double.nearestRank_zero hgigabyte, Double.magnitude_zero]
    have hsigned := Double.signed_natAbs_signed
      (f := fun m => Double.magnitude (Double.nearestRank m (twoTo 30))) hzero negative
      (Double.magnitude rank)
    rw [Number.place?, Double.place_ofRatio hlimit, hcommon, Double.gigabytes, hsigned]

/-- **The gigabytes of a number of bytes** are a matter of where that number stands. -/
theorem exists_quotient_gigabyte {bytes : Number} {n : Int}
    (hbytes : bytes.place? = some (.units n)) (hconvertible : bytes.isUnconvertible = false) :
    ∃ d, quotient bytes gigabyte = .ok (.real d) ∧
      (Number.real d).place? = some (.units (Double.gigabytes n)) := by
  cases bytes with
  | int k =>
    exact exists_quotient_gigabyte_int hbytes (Nat.not_le.mp (of_decide_eq_false hconvertible))
  | real e =>
    cases e with
    | nan => cases hbytes
    | infinity negative => cases negative <;> cases hbytes
    | finite negative rank =>
      have hn : Double.signed negative (Double.magnitude rank) = n :=
        Double.Place.units.inj (Option.some.inj hbytes)
      rw [← hn]
      exact exists_quotient_gigabyte_real negative rank

/-- A number of bytes below `10 ^ 26` is shown in gigabytes. -/
theorem exists_inGigabytes {bytes : Number} {n : Int} (hbytes : bytes.place? = some (.units n))
    (hsmall : n.natAbs < Double.refusedFrom) :
    ∃ d, inGigabytes bytes = .ok d ∧
      d.place? = some (.units (Double.settled (Double.gigabytes n))) := by
  have hconvertible : bytes.isUnconvertible = false :=
    Number.isUnconvertible_of_not_isTooLarge (Number.isTooLarge_of_lt hbytes hsmall)
  obtain ⟨quotient, hquotient, hplace⟩ := exists_quotient_gigabyte hbytes hconvertible
  have hamount : (Number.real quotient).isAmount = true := Number.isAmount_of_units hplace
  obtain ⟨d, hd⟩ := Number.exists_roundHundredths hamount
    (Number.isTooLarge_of_lt hplace (Double.natAbs_gigabytes_lt hsmall))
  refine ⟨d, ?_, Number.place_roundHundredths hplace hd⟩
  have hfigure : figure (.real quotient) = .ok d := by
    rw [figure, finite_eq, hamount]
    show rounded (.real quotient) = .ok d
    rw [rounded, hd]
  rw [inGigabytes, hquotient]
  exact hfigure

end Monitor

end TenantHost
