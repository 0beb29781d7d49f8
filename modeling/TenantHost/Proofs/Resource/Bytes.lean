import TenantHost.Proofs.Double.Gaps
import TenantHost.Proofs.Resource.Consistency
/-!
# Whole numbers of bytes

Numbers of bytes are integers as a rule, and integers of any size are subtracted and divided as what
they are: only the quotient is a double. Up to `2 ^ 45` bytes the answers are therefore right to the
last bit: each is the double nearest to the exact quotient rounded to hundredths, although it is
computed by way of two other roundings.
-/

namespace TenantHost

/-! ## Quotients of counts -/

namespace Double

/-- A part of a whole has at most a hundred hundredths. -/
theorem halfUp_le_hundred {part total : Nat} (hpos : 0 < total) (h : part ≤ total) :
    halfUp part total ≤ 100 := by
  have hlow := halfUp_mul_le part total
  apply Nat.le_of_lt_succ
  apply Nat.lt_of_mul_lt_mul_right (a := 2 * total)
  omega

/-- A part of up to `2 ^ 45` bytes keeps a distance from the half of a hundredth above it: the
thousandths of both have the factor five in common. -/
theorem share_lt_next {part total : Nat} (hpos : 0 < total) (h : part ≤ total)
    (hsmall : total ≤ twoTo 45) :
    nearestRank (part * twoTo 1074) total
      < rankOfDecimal ((10 * halfUp part total + 5) * tenTo 1071) := by
  have hhigh := lt_halfUp_mul part hpos
  have hcount := halfUp_le_hundred hpos h
  have hdouble : twoTo 53 = 256 * twoTo 45 := rfl
  have hlimit : 2 ≤ twoTo 45 := by decide
  generalize twoTo 45 = limit at hsmall hdouble hlimit
  generalize halfUp part total = count at hhigh hcount ⊢
  rcases Nat.lt_or_eq_of_le hcount with hlt | rfl
  · apply nearestRank_lt_thousandths 5 0 hpos
    · rw [twoTo_zero]
      omega
    · grind
    · rw [twoTo_zero, hdouble]
      omega
  · -- the next half lies beyond one, and so a long way beyond any part
    have hpower : twoTo 1 = 2 := rfl
    apply nearestRank_lt_thousandths (5 * total) 1 hpos
    · decide
    · omega
    · rw [hdouble, hpower]
      calc 1000 * total * 2 < 5 * total * (256 * 2) := by omega
        _ ≤ 5 * total * (256 * limit) :=
          Nat.mul_le_mul_left _ (Nat.mul_le_mul_left 256 hlimit)

/-- So do the gigabytes of up to `2 ^ 45` bytes: the thousandths of the half and of the bytes have
the factor forty in common. -/
theorem gigabytes_lt_next {bytes : Nat} (h : bytes ≤ twoTo 45) :
    halfUp bytes (twoTo 30) ≤ 3276800 ∧
      nearestRank (bytes * twoTo 1074) (twoTo 30)
        < rankOfDecimal ((10 * halfUp bytes (twoTo 30) + 5) * tenTo 1071) := by
  have hgigabyte : twoTo 30 = 1073741824 := rfl
  have hlimit : twoTo 45 = 35184372088832 := rfl
  have hlow := halfUp_mul_le bytes (twoTo 30)
  have hhigh := lt_halfUp_mul bytes (twoTo_pos 30)
  generalize halfUp bytes (twoTo 30) = count at hlow hhigh ⊢
  rw [hgigabyte] at hlow hhigh
  rw [hlimit] at h
  have hcount : count ≤ 3276800 := by omega
  refine ⟨hcount, ?_⟩
  apply nearestRank_lt_thousandths 40 16 (twoTo_pos 30)
  · have hpower : twoTo 16 = 65536 := rfl
    omega
  · rw [hgigabyte]
    omega
  · decide

end Double

namespace Monitor

variable {σ τ : Type}

/-! ## Answers -/

/-- A count is divided by another one as it is. -/
theorem quotient_counts {part total : Nat} (h : (Double.ofRatio false part total).isFinite = true) :
    quotient (.int part) (.int total) = .ok (.real (Double.ofRatio false part total)) := by
  rw [quotient, Number.div, decide_eq_false (Int.not_lt.mpr (Int.natCast_nonneg part)),
    decide_eq_false (Int.not_lt.mpr (Int.natCast_nonneg total)), Int.natAbs_natCast,
      Int.natAbs_natCast,
    bne_self_eq_false, Number.within, if_pos h]

/-- A finite double that can be rounded to hundredths is a figure. -/
theorem figure_of_isFinite {d e : Double} (hfinite : d.isFinite = true)
    (hround : d.roundHundredths? = some e) : figure (.real d) = .ok e := by
  have hamount : (Number.real d).isAmount = true := by
    rw [Number.isAmount_real, hfinite]
  have hrounded : (Number.real d).roundHundredths? = some e := hround
  rw [figure, finite_eq, hamount]
  show rounded (.real d) = .ok e
  rw [rounded, hrounded]

/-- What is made of a quotient that is finite and can be rounded. -/
theorem bind_figure_of_isFinite {quotient : Except Fault Number} {d e : Double}
    (hquotient : quotient = .ok (.real d)) (hfinite : d.isFinite = true)
    (hround : d.roundHundredths? = some e) : quotient >>= figure = .ok e := by
  rw [hquotient]
  exact figure_of_isFinite hfinite hround

/-- Of counts, the part that is used is subtracted exactly, and is a share of the total. -/
theorem exists_usedPart_counts {total available : Nat} (hpos : 0 < total)
    (h : available ≤ total) :
    ∃ share, usedPart (.int total) (.int available) = .ok share ∧
      (Number.real (Double.ofRatio false (total - available) total)).roundHundredths?
        = some share ∧
      isShare (.real share) = true := by
  have hpart : total - available ≤ total := Nat.sub_le _ _
  have hshare : isShare (.real (Double.ofRatio false (total - available) total)) = true :=
    isShare_of_place (Double.nearestRank_le_oneRank hpos hpart)
      (Double.place_ofRatio_of_le hpos hpart)
  have hfinite : (Double.ofRatio false (total - available) total).isFinite = true := by
    rw [← Number.isAmount_real]
    exact isAmount_of_isShare hshare
  obtain ⟨share, hround⟩ :=
    Number.exists_roundHundredths (isAmount_of_isShare hshare) (isTooLarge_of_isShare hshare)
  have hdifference : difference (.int total) (.int available)
      = .ok (.int (total - available : Nat)) := by
    rw [difference, Number.sub, Int.ofNat_sub h]
  refine ⟨share, ?_, hround, isShare_of_rounded hshare hround⟩
  rw [usedPart_eq, bind_quotient_of_difference hdifference]
  exact bind_figure_of_isFinite (quotient_counts hfinite) hfinite hround

/-- More available memory is no greater share in use. -/
theorem usedPart_antitone {total few many : Nat} (hpos : 0 < total) (hmore : few ≤ many)
    (h : many ≤ total) {high low : Double} (hhigh : usedPart (.int total) (.int few) = .ok high)
    (hlow : usedPart (.int total) (.int many) = .ok low) :
    Number.atMost (.real low) (.real high) = true := by
  obtain ⟨high', hhigh', hhighRound, -⟩ := exists_usedPart_counts hpos (Nat.le_trans hmore h)
  obtain ⟨low', hlow', hlowRound, -⟩ := exists_usedPart_counts hpos h
  obtain rfl : high' = high := Except.ok.inj (hhigh'.symm.trans hhigh)
  obtain rfl : low' = low := Except.ok.inj (hlow'.symm.trans hlow)
  have hhighPlace : (Number.real (Double.ofRatio false (total - few) total)).place? = _ :=
    Double.place_ofRatio_of_le hpos (Nat.sub_le _ _)
  have hlowPlace : (Number.real (Double.ofRatio false (total - many) total)).place? = _ :=
    Double.place_ofRatio_of_le hpos (Nat.sub_le _ _)
  have hrank : Double.nearestRank ((total - many) * twoTo 1074) total
      ≤ Double.nearestRank ((total - few) * twoTo 1074) total := by
    apply Double.nearestRank_mono hpos hpos
    exact Nat.mul_le_mul_right _ (Nat.mul_le_mul_right _ (Nat.sub_le_sub_left hmore total))
  have hquotients : Number.atMost (.real (Double.ofRatio false (total - many) total))
      (.real (Double.ofRatio false (total - few) total)) = true := by
    rw [Number.atMost_of_units hlowPlace hhighPlace]
    exact decide_eq_true (Int.ofNat_le.mpr (Double.magnitude_le_magnitude_iff.mpr hrank))
  exact Number.roundHundredths_mono (Number.isAmount_of_units hlowPlace)
    (Number.isAmount_of_units hhighPlace) hquotients hlowRound hhighRound

/-- Up to `2 ^ 45` bytes, the part in use is the exact one rounded once. -/
theorem usedPart_eq_nearestHundredth {total available : Nat} (hpos : 0 < total)
    (h : available ≤ total) (hsmall : total ≤ twoTo 45) :
    usedPart (.int total) (.int available)
      = .ok (Double.nearestHundredth (total - available) total) := by
  have hpart : total - available ≤ total := Nat.sub_le _ _
  have hcount := Double.halfUp_le_hundred hpos hpart
  have hlimit : 10 * 100 < Double.thousandthsLimit := by decide
  obtain ⟨-, hround⟩ := Double.roundHundredths_ofRatio hpos (by omega)
    (Double.share_lt_next hpos hpart hsmall)
  obtain ⟨share, husedPart, hshare, -⟩ := exists_usedPart_counts hpos h
  rw [husedPart, Option.some.inj (hshare.symm.trans hround)]

/-- Up to `2 ^ 45` bytes, the gigabytes are the exact ones rounded once. -/
theorem inGigabytes_eq_nearestHundredth {bytes : Nat} (h : bytes ≤ twoTo 45) :
    inGigabytes (.int bytes) = .ok (Double.nearestHundredth bytes (twoTo 30)) := by
  obtain ⟨hcount, hnext⟩ := Double.gigabytes_lt_next h
  have hlimit : 10 * 3276800 < Double.thousandthsLimit := by decide
  obtain ⟨hfinite, hround⟩ := Double.roundHundredths_ofRatio (twoTo_pos 30) (by omega) hnext
  exact bind_figure_of_isFinite (quotient_counts hfinite) hfinite hround

/-- A total that is not zero is used in part. -/
theorem memoryUsage_of_counts {source : Source σ} {s s' : Bool × World σ} {total available : Nat}
    (hpos : 0 < total) (hread : readMemory source s = (.ok (.int total, .int available), s')) :
    memoryUsage source s = (usedPart (.int total) (.int available), s') := by
  have hpositive : (Number.int total).atMost (.int 0) = false := by
    rw [Number.atMost_zero_of_units (Number.place?_int total)]
    have hunit := twoTo_pos 1074
    generalize twoTo 1074 = unit at hunit
    exact decide_eq_false (Int.not_le.mpr
      (Int.mul_pos (Int.natCast_pos.mpr hpos) (Int.natCast_pos.mpr hunit)))
  rw [memoryUsage, orUnavailable_ok hread]
  show (if (Number.int total).atMost (.int 0) then _
    else Action.ofExcept _ : MonitorAction σ Double) s' = _
  rw [hpositive, if_neg Bool.false_ne_true]
  rfl

/-- **What is answered about whole numbers of bytes is right.** Of any total the part in use is a
share, which does not grow with the memory that is available; and up to `2 ^ 45` bytes every answer
is the double nearest to the exact quotient rounded to hundredths. -/
theorem memory_rounded_once (source : Source σ) (other : Source τ) (s s' : Bool × World σ)
    (t t' : Bool × World τ) :
    (∀ total available : Nat, 0 < total → available ≤ total →
      readMemory source s = (.ok (.int total, .int available), s') →
      ∃ share, memoryUsage source s = (.ok share, s') ∧ isShare (.real share) = true ∧
        (total ≤ twoTo 45 → share = Double.nearestHundredth (total - available) total) ∧
        ∀ more : Nat, available ≤ more → more ≤ total →
          readMemory other t = (.ok (.int total, .int more), t') →
          ∃ less, memoryUsage other t = (.ok less, t') ∧
            Number.atMost (.real less) (.real share) = true) ∧
    ∀ bytes : Nat, bytes ≤ twoTo 45 →
      (source.read .availableMemory s = (.ok (.int bytes), s') →
        availableMemory source s = (.ok (Double.nearestHundredth bytes (twoTo 30)), s')) ∧
      (source.read .totalMemory s = (.ok (.int bytes), s') →
        totalMemory source s = (.ok (Double.nearestHundredth bytes (twoTo 30)), s')) := by
  constructor
  · intro total available hpos h hread
    obtain ⟨share, hshare, -, hrange⟩ := exists_usedPart_counts hpos h
    refine ⟨share, ?_, hrange, ?_, ?_⟩
    · rw [memoryUsage_of_counts hpos hread, hshare]
    · intro hsmall
      rw [usedPart_eq_nearestHundredth hpos h hsmall] at hshare
      exact (Except.ok.inj hshare).symm
    · intro more hmore hmost hreadMore
      obtain ⟨less, hless, -, -⟩ := exists_usedPart_counts hpos hmost
      refine ⟨less, ?_, usedPart_antitone hpos hmore hmost hshare hless⟩
      rw [memoryUsage_of_counts hpos hreadMore, hless]
  · intro bytes hsmall
    have hgigabytes := inGigabytes_eq_nearestHundredth hsmall
    constructor
    · intro hread
      rw [availableMemory, orUnavailable_ok hread, hgigabytes]
      rfl
    · intro hread
      rw [totalMemory, orUnavailable_ok hread, hgigabytes]
      rfl

/-- Of sixteen gibibytes the half is in use while eight of them are available, and no more while
twelve are. -/
theorem memory_rounded_once_of_sixteen :
    memoryUsage (withMemory 17179869184 8589934592) (false, World.start ())
        = (.ok (Double.nearestHundredth 1 2), (false, World.start ())) ∧
      (∃ less, memoryUsage (withMemory 17179869184 12884901888) (false, World.start ())
          = (.ok less, (false, World.start ())) ∧
        Number.atMost (.real less) (.real (Double.nearestHundredth 1 2)) = true) ∧
      availableMemory (withMemory 17179869184 8589934592) (false, World.start ())
        = (.ok (Double.nearestHundredth 8 1), (false, World.start ())) := by
  obtain ⟨husage, hgigabytes⟩ := memory_rounded_once (withMemory 17179869184 8589934592)
    (withMemory 17179869184 12884901888) (false, World.start ()) (false, World.start ())
    (false, World.start ()) (false, World.start ())
  obtain ⟨share, hshare, -, hexact, hless⟩ :=
    husage 17179869184 8589934592 (by decide) (by decide) rfl
  have hhalf : share = Double.nearestHundredth 1 2 := by
    rw [hexact (by decide)]
    rfl
  obtain ⟨less, hrun, hatMost⟩ := hless 12884901888 (by decide) (by decide) rfl
  obtain ⟨havailable, -⟩ := hgigabytes 8589934592 (by decide)
  refine ⟨?_, ⟨less, hrun, ?_⟩, ?_⟩
  · rw [hshare, hhalf]
  · rw [← hhalf]
    exact hatMost
  · exact havailable rfl

end Monitor

end TenantHost
