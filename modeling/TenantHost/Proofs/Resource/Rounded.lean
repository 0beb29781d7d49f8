import TenantHost.Proofs.Double.Nearest
import TenantHost.Proofs.Double.Written
import TenantHost.Proofs.Resource.Figures
/-!
# The laws of rounding to hundredths

A double is rounded by way of the shortest decimal that it is written with: to the nearest number of
hundredths, a half away from zero, and from there to the nearest double. The result is written with
at most two places itself, so rounding it again changes nothing. That holds at all magnitudes, also
where the steps of the doubles are about as large as a hundredth, since a number of hundredths that
reads back gives the shortest decimal two places at most. Where rounding is refused is a matter of
the decimal too: from `10 ^ 26` on.
-/

namespace TenantHost

namespace Double

/-! ## Numbers of hundredths -/

/-- A number of hundredths nearest to a decimal: not further than half a hundredth away, and if as
far then above. -/
def IsHundredthsOf (count units : Nat) : Prop :=
  count * tenTo 1072 ≤ units + 5 * tenTo 1071 ∧ units < count * tenTo 1072 + 5 * tenTo 1071

/-- There is one nearest number of hundredths, and rounding finds it. -/
theorem isHundredthsOf_iff {count units : Nat} : IsHundredthsOf count units ↔
    count = hundredths units := by
  have hpos := tenTo_pos 1071
  unfold IsHundredthsOf hundredths
  rw [tenTo_succ 1071, eq_comm]
  generalize tenTo 1071 = unit at hpos
  rw [Nat.div_eq_iff (by omega)]
  have hcommute : count * (unit * 10) = unit * 10 * count := Nat.mul_comm _ _
  omega

theorem hundredths_mul (count : Nat) : hundredths (count * tenTo 1072) = count := by
  have hpos := tenTo_pos 1071
  symm
  rw [← isHundredthsOf_iff, IsHundredthsOf]
  omega

/-! ## Rounding again -/

/-- The double nearest to one hundredth is not below it, and the greatest double below `10 ^ 26`
stays below it. -/
theorem repeated_values :
    tenTo 1072 ≤ decimalUnits (rankOfDecimal (1 * tenTo 1072)) ∧
      roundedRank (refusedRank - 1) < refusedRank := by
  decide +kernel

/-- The double nearest to a number of hundredths is written with two places at most. -/
theorem tenTo_dvd_shortest_hundredths (count : Nat) :
    tenTo 1072 ∣ shortest (rankOfDecimal (count * tenTo 1072)) := by
  rcases Nat.eq_zero_or_pos count with rfl | hpos
  · apply tenTo_dvd_shortest_of_exact
    rw [Nat.zero_mul, rankOfDecimal, nearestRank_zero fivePower_pos, decimalUnits, magnitude_zero,
      Nat.zero_mul]
    exact Nat.dvd_zero _
  · apply tenTo_dvd_shortest rfl (Nat.dvd_mul_left _ _)
    have hrank : rankOfDecimal (1 * tenTo 1072) ≤ rankOfDecimal (count * tenTo 1072) :=
      rankOfDecimal_mono (Nat.mul_le_mul_right _ hpos)
    calc tenTo 1072 ≤ decimalUnits (rankOfDecimal (1 * tenTo 1072)) := repeated_values.1
      _ ≤ decimalUnits (rankOfDecimal (count * tenTo 1072)) :=
        Nat.mul_le_mul_right _ (magnitude_le_magnitude_iff.mpr hrank)

/-- **Rounding a rank again changes nothing.** -/
theorem roundedRank_roundedRank (rank : Nat) :
    roundedRank (roundedRank rank) = roundedRank rank := by
  obtain ⟨count, hcount⟩ := tenTo_dvd_shortest_hundredths (hundredths (shortest rank))
  rw [← roundedRank, Nat.mul_comm] at hcount
  calc roundedRank (roundedRank rank)
      = rankOfDecimal (hundredths (shortest (roundedRank rank)) * tenTo 1072) := rfl
    _ = rankOfDecimal (shortest (roundedRank rank)) := by rw [hcount, hundredths_mul]
    _ = roundedRank rank := rankOfDecimal_shortest _

/-- What is rounded stays below `10 ^ 26`. -/
theorem roundedRank_lt_refusedRank {rank : Nat} (h : rank < refusedRank) :
    roundedRank rank < refusedRank :=
  Nat.lt_of_le_of_lt (roundedRank_mono (Nat.le_pred_of_lt h)) repeated_values.2

/-! ## Where rounding is refused -/

/-- `10 ^ 26` in units of `10 ^ -1074`. -/
def refusedUnits : Nat := tenTo 1100

/-- The doubles that are rounded: those that are written with a decimal below `10 ^ 26`. -/
inductive IsRoundable : Double → Prop where
  | small (negative : Bool) (rank : Fin rankLimit) (h : shortest rank < refusedUnits) :
      IsRoundable (.finite negative rank)

/-- The doubles that are not rounded: the infinite ones, and those that are written with a decimal
from `10 ^ 26` on. -/
inductive IsRefused : Double → Prop where
  | infinite (negative : Bool) : IsRefused (.infinity negative)
  | large (negative : Bool) (rank : Fin rankLimit) (h : refusedUnits ≤ shortest rank) :
      IsRefused (.finite negative rank)

theorem shortest_lt_refusedUnits_iff {rank : Nat} : shortest rank < refusedUnits ↔
    rank < refusedRank := by
  obtain ⟨-, -, hshortest, -⟩ := refused_values
  constructor
  · intro h
    rcases Nat.lt_or_ge rank refusedRank with hlt | hge
    · exact hlt
    · have hmono := shortest_mono hge
      rw [hshortest] at hmono
      exact absurd h (Nat.not_lt.mpr hmono)
  · intro h
    exact Nat.lt_of_lt_of_le (shortest_lt_refusedDecimal_iff.mpr h) refusedDecimal_le

theorem hundredths_lt_limit_iff_lt_refusedRank {rank : Nat} :
    hundredths (shortest rank) < hundredthsLimit ↔ rank < refusedRank := by
  rw [hundredths_lt_limit_iff, shortest_lt_refusedDecimal_iff]

/-- A roundable double is rounded to the double of its rounded rank. -/
theorem roundHundredths_finite {negative : Bool} {rank : Fin rankLimit} (h : rank < refusedRank) :
    (Double.finite negative rank).roundHundredths? = some (ofRank negative (roundedRank rank)) := by
  rw [roundHundredths?, ofHundredths?, if_pos (hundredths_lt_limit_iff_lt_refusedRank.mpr h),
    roundedRank]

theorem roundHundredths_of_refused {negative : Bool} {rank : Fin rankLimit}
    (h : refusedRank ≤ rank) :
    (Double.finite negative rank).roundHundredths? = none := by
  have hlarge : ¬hundredths (shortest rank) < hundredthsLimit := by
    rw [hundredths_lt_limit_iff_lt_refusedRank]
    exact Nat.not_lt.mpr h
  rw [roundHundredths?, ofHundredths?, if_neg hlarge]

theorem neg_ofRank (negative : Bool) (rank : Nat) :
    ofRank (!negative) rank = (ofRank negative rank).neg := by
  unfold ofRank
  split <;> rfl

/-- The sign is no matter of rounding. -/
theorem roundHundredths_neg (d : Double) : d.neg.roundHundredths? = d.roundHundredths?.map neg := by
  cases d with
  | nan => rfl
  | infinity negative => rfl
  | finite negative rank =>
    show ofHundredths? (!negative) _ = (ofHundredths? negative _).map neg
    unfold ofHundredths?
    split
    · rw [Option.map_some, neg_ofRank]
    · rfl

/-- A number of hundredths that is not too large has a finite nearest double. -/
theorem nearestRank_hundredths_lt {count : Nat} (h : count < hundredthsLimit) :
    nearestRank (count * twoTo 1074) 100 < rankLimit := by
  have hplaces : rankOfDecimal (count * tenTo 1072) = nearestRank (count * twoTo 1074) 100 :=
    rankOfDecimal_places (Nat.add_comm 1072 2) count
  have hdecimal : count * tenTo 1072 ≤ refusedDecimal + 5 * tenTo 1071 := by
    rw [refusedDecimal_add]
    exact Nat.mul_le_mul_right _ (Nat.le_of_lt h)
  rw [← hplaces]
  exact Nat.lt_of_le_of_lt (rankOfDecimal_mono hdecimal) rankOfDecimal_lt_rankLimit

/-- A number of hundredths that is not too large becomes the double nearest to it. -/
theorem ofHundredths_eq_ofRatio {negative : Bool} {count : Nat} (h : count < hundredthsLimit) :
    ofHundredths? negative count = some (ofRatio negative count 100) := by
  have hplaces : rankOfDecimal (count * tenTo 1072) = nearestRank (count * twoTo 1074) 100 :=
    rankOfDecimal_places (Nat.add_comm 1072 2) count
  rw [ofHundredths?, if_pos h, ofRatio, hplaces]

end Double

namespace Monitor

open Double

theorem rounded_eq_ok_iff {a : Number} {d : Double} :
    rounded a = .ok d ↔ a.roundHundredths? = some d := by
  unfold rounded
  cases a.roundHundredths? with
  | none => exact iff_of_false (by simp) (by simp)
  | some e => simp

/-- A roundable double is rounded to the double nearest to the number of hundredths nearest to its
decimal. -/
theorem exists_rounded_nearest {negative : Bool} {rank : Fin rankLimit}
    (h : shortest rank < refusedUnits) :
    ∃ count d, (∀ k, IsHundredthsOf k (shortest rank) ↔ k = count) ∧
      rounded (.real (.finite negative rank)) = .ok d ∧
        ∀ e, IsNearest negative count 100 e ↔ e = d := by
  have hcount : hundredths (shortest rank) < hundredthsLimit :=
    hundredths_lt_limit_iff_lt_refusedRank.mpr (shortest_lt_refusedUnits_iff.mp h)
  refine ⟨hundredths (shortest rank), ofRatio negative (hundredths (shortest rank)) 100,
    ?_, ?_, ?_⟩
  · intro k
    exact isHundredthsOf_iff
  · rw [rounded_eq_ok_iff]
    exact ofHundredths_eq_ofRatio hcount
  · intro e
    exact isNearest_iff (by decide) (nearestRank_hundredths_lt hcount) e

theorem exists_rounded_of_isRoundable {v : Double} (h : IsRoundable v) :
    ∃ d, rounded (.real v) = .ok d := by
  cases h with
  | small negative rank hsmall =>
    obtain ⟨-, d, -, hd, -⟩ := @exists_rounded_nearest negative rank hsmall
    exact ⟨d, hd⟩

theorem isAmount_of_isRoundable {v : Double} (h : IsRoundable v) :
    (Number.real v).isAmount = true := by
  cases h with
  | small negative rank hsmall => rfl

/-- Roundable doubles are rounded in order. -/
theorem exists_rounded_mono {v w : Double} (hv : IsRoundable v) (hw : IsRoundable w)
    (h : Number.atMost (.real v) (.real w) = true) :
    ∃ d e, rounded (.real v) = .ok d ∧ rounded (.real w) = .ok e ∧
      Number.atMost (.real d) (.real e) = true := by
  obtain ⟨d, hd⟩ := exists_rounded_of_isRoundable hv
  obtain ⟨e, he⟩ := exists_rounded_of_isRoundable hw
  exact ⟨d, e, hd, he, Number.roundHundredths_mono (isAmount_of_isRoundable hv)
    (isAmount_of_isRoundable hw) h (rounded_eq_ok_iff.mp hd) (rounded_eq_ok_iff.mp he)⟩

/-- The opposite of a double is rounded to the opposite. -/
theorem rounded_neg (v : Double) : rounded (.real v.neg) = (rounded (.real v)).map neg := by
  unfold rounded
  rw [Number.roundHundredths?, roundHundredths_neg, Number.roundHundredths?]
  cases v.roundHundredths? <;> rfl

/-- What is rounded can be rounded again, to itself. -/
theorem rounded_rounded {v d : Double} (h : rounded (.real v) = .ok d) :
    rounded (.real d) = .ok d := by
  rw [rounded_eq_ok_iff, Number.roundHundredths?] at h ⊢
  cases v with
  | nan =>
    obtain rfl : Double.nan = d := Option.some.inj h
    rfl
  | infinity negative => cases h
  | finite negative rank =>
    have hfinite := Number.isFinite_of_ofHundredths h
    rcases Nat.lt_or_ge rank.val refusedRank with hlt | hge
    · rw [roundHundredths_finite hlt] at h
      obtain rfl := Option.some.inj h
      rw [isFinite_ofRank] at hfinite
      have hrank := of_decide_eq_true hfinite
      have hreturn : ofRank negative (roundedRank rank) = .finite negative
          ⟨roundedRank rank, hrank⟩ :=
        dif_pos hrank
      rw [hreturn, roundHundredths_finite (roundedRank_lt_refusedRank hlt), roundedRank_roundedRank,
        hreturn]
    · rw [roundHundredths_of_refused hge] at h
      cases h

/-- Rounding is refused where it is said to be, and there alone. -/
theorem rounded_eq_error_iff {v : Double} {fault : Fault} :
    rounded (.real v) = .error fault ↔ fault = .roundingRefused ∧ IsRefused v := by
  have hnone : rounded (.real v) = .error fault ↔
      fault = .roundingRefused ∧ v.roundHundredths? = none := by
    unfold rounded
    rw [Number.roundHundredths?]
    cases v.roundHundredths? with
    | none => simp [eq_comm]
    | some d => simp
  rw [hnone]
  refine and_congr_right fun _ => ?_
  cases v with
  | nan =>
    refine iff_of_false (Option.some_ne_none _) ?_
    rintro ⟨⟩
  | infinity negative => exact iff_of_true rfl (.infinite negative)
  | finite negative rank =>
    rcases Nat.lt_or_ge (shortest rank) refusedUnits with hlt | hge
    · obtain ⟨-, d, -, hd, -⟩ := @exists_rounded_nearest negative rank hlt
      rw [rounded_eq_ok_iff, Number.roundHundredths?] at hd
      rw [hd]
      refine iff_of_false (Option.some_ne_none d) ?_
      rintro ⟨⟩
      omega
    · refine iff_of_true (roundHundredths_of_refused ?_) (.large negative rank hge)
      exact Nat.not_lt.mp fun hlt => Nat.not_lt.mpr hge (shortest_lt_refusedUnits_iff.mpr hlt)

/-- **The laws of rounding to hundredths.** A double that is written with a decimal below `10 ^ 26`
is rounded to the double nearest to the number of hundredths nearest to that decimal, a half away
from zero. Such doubles are rounded in order; the opposite of a double is rounded to the opposite,
and what is rounded stays when it is rounded again. Infinities and the doubles that are written with
a greater decimal are refused, and no others. -/
theorem rounded_laws :
    (∀ (negative : Bool) (rank : Fin rankLimit), shortest rank < refusedUnits →
      IsShortest rank (shortest rank) ∧ ∃ count d, (∀ k, IsHundredthsOf k (shortest rank) ↔
        k = count) ∧
        rounded (.real (.finite negative rank)) = .ok d ∧
          ∀ e, IsNearest negative count 100 e ↔ e = d) ∧
    (∀ v w, IsRoundable v → IsRoundable w → Number.atMost (.real v) (.real w) = true →
      ∃ d e, rounded (.real v) = .ok d ∧ rounded (.real w) = .ok e ∧
        Number.atMost (.real d) (.real e) = true) ∧
    (∀ v, rounded (.real v.neg) = (rounded (.real v)).map neg) ∧
    (∀ v d, rounded (.real v) = .ok d → rounded (.real d) = .ok d) ∧
    ∀ v fault, rounded (.real v) = .error fault ↔ fault = .roundingRefused ∧ IsRefused v := by
  refine ⟨?_, fun v w => exists_rounded_mono, rounded_neg, fun v d => rounded_rounded,
    fun v fault => rounded_eq_error_iff⟩
  intro negative rank h
  exact ⟨shortest_isShortest rank, exists_rounded_nearest h⟩

/-- The rank of the double that is written as `2.675`. It lies a bit below that decimal. -/
def halfwayRank : Fin rankLimit :=
  ⟨nearestRank (2675 * twoTo 1074) 1000, by decide +kernel⟩

/-- The double `2.675` is rounded up to `2.68` nevertheless, its opposite down, and `2.68` stays. -/
theorem rounded_laws_of_halfway :
    (shortest halfwayRank < refusedUnits ∧ magnitude halfwayRank * 1000 < 2675 * twoTo 1074) ∧
      rounded (.real (.finite false halfwayRank)) = .ok (ofRatio false 268 100) ∧
      rounded (.real (.finite true halfwayRank)) = .ok (ofRatio false 268 100).neg ∧
      rounded (.real (ofRatio false 268 100)) = .ok (ofRatio false 268 100) := by
  have hvalues : (shortest halfwayRank < refusedUnits ∧
      magnitude halfwayRank * 1000 < 2675 * twoTo 1074) ∧
        hundredths (shortest halfwayRank) = 268 ∧
      nearestRank (268 * twoTo 1074) 100 < rankLimit := by
    decide +kernel
  obtain ⟨hbelow, hcount, hfinite⟩ := hvalues
  obtain ⟨hnearest, -, hodd, hagain, -⟩ := rounded_laws
  obtain ⟨-, count, d, hunique, hrounded, hd⟩ := hnearest false halfwayRank hbelow.1
  obtain rfl : 268 = count := (hunique 268).mp (isHundredthsOf_iff.mpr hcount.symm)
  have hmost : IsNearest false 268 100 (ofRatio false 268 100) :=
    isNearest_ofRatio (by decide) hfinite
  obtain rfl : ofRatio false 268 100 = d := (hd (ofRatio false 268 100)).mp hmost
  refine ⟨hbelow, hrounded, ?_, hagain _ _ hrounded⟩
  have hopposite := hodd (.finite false halfwayRank)
  rw [hrounded] at hopposite
  exact hopposite

end Monitor

end TenantHost
