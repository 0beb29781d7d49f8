import TenantHost.Proofs.Double.Settled
import TenantHost.Proofs.Number.Order
import TenantHost.Proofs.Number.Size
/-!
# Rounding numbers to hundredths

An integer is rounded by way of its own digits and a double by way of its shortest decimal, and yet
both come to the same place as if the number had been a double first. So numbers are rounded to
hundredths in order, whichever kind they are of.
-/

namespace TenantHost

/-! ## Places -/

namespace Double

/-- A common factor of a quotient does not matter. -/
theorem nearestRank_mul_right {num den factor : Nat} (hden : 0 < den) (hfactor : 0 < factor) :
    nearestRank (num * factor) (den * factor) = nearestRank num den := by
  have hprod : 0 < den * factor := Nat.mul_pos hden hfactor
  have hcross : num * factor * den = num * (den * factor) := by
    rw [Nat.mul_assoc, Nat.mul_comm factor den]
  apply Nat.le_antisymm
  · exact nearestRank_mono hprod hden (Nat.le_of_eq hcross)
  · exact nearestRank_mono hden hprod (Nat.le_of_eq hcross.symm)

/-- A decimal with some number of places reads back as the double nearest to it. -/
theorem rankOfDecimal_places {place places : Nat} (h : place + places = 1074) (count : Nat) :
    rankOfDecimal (count * tenTo place) = nearestRank (count * twoTo 1074) (tenTo places) := by
  have hfive := fivePower_pos
  have hten := tenTo_pos places
  have hsplit : count * tenTo place * tenTo places = count * twoTo 1074 * fivePower := by
    rw [Nat.mul_assoc, ← tenTo_add, h, tenTo_eq, Nat.mul_assoc, fivePower]
  calc rankOfDecimal (count * tenTo place)
      = nearestRank (count * tenTo place * tenTo places) (fivePower * tenTo places) :=
        (nearestRank_mul_right hfive hten).symm
    _ = nearestRank (count * twoTo 1074 * fivePower) (tenTo places * fivePower) := by
        rw [hsplit, Nat.mul_comm fivePower]
    _ = nearestRank (count * twoTo 1074) (tenTo places) := nearestRank_mul_right hten hfive

/-- The decimal of a whole number reads back as the double nearest to it. -/
theorem rankOfDecimal_whole (k : Nat) :
    rankOfDecimal (k * tenTo 1074) = nearestRank (k * twoTo 1074) 1 :=
  rankOfDecimal_places (Nat.add_zero 1074) k

theorem place_ofHundredths {negative : Bool} {count : Nat} {d : Double}
    (h : ofHundredths? negative count = some d) :
    d.place? = some (.units (signed negative
      (magnitude (rankOfDecimal (count * tenTo 1072))))) := by
  have hfinite := Number.isFinite_of_ofHundredths h
  unfold ofHundredths? at h
  split at h
  · have hd := Option.some.inj h
    rw [← hd, isFinite_ofRank] at hfinite
    rw [← hd, ofRank, dif_pos (of_decide_eq_true hfinite)]
    rfl
  · exact absurd h (Option.some_ne_none d).symm

/-- A sign is taken off and put on again, for a function that keeps zero: there are two zeros, and
the sign makes no difference to them. -/
theorem signed_natAbs_signed {f : Nat → Nat} (hzero : f 0 = 0) (negative : Bool) (amount : Nat) :
    signed (signed negative amount < 0) (f (signed negative amount).natAbs)
      = signed negative (f amount) := by
  rw [Number.natAbs_signed]
  rcases Nat.eq_zero_or_pos amount with rfl | hpos
  · rw [hzero]
    cases negative <;> rfl
  · cases negative with
    | false =>
      rw [signed_false, decide_eq_false (by omega : ¬ (amount : Int) < 0)]
    | true =>
      rw [signed_true, decide_eq_true (by omega : -(amount : Int) < 0)]

theorem nearestRank_magnitude_one (rank : Nat) : nearestRank (magnitude rank) 1 = rank := by
  have hback := nearestRank_magnitude rank Nat.one_pos
  rwa [Nat.mul_one] at hback

theorem magnitude_roundedRank_zero : magnitude (roundedRank (nearestRank 0 1)) = 0 := by
  have hzero : magnitude 0 = 0 * twoTo 1074 := by
    rw [Nat.zero_mul]
    rfl
  have hrank : nearestRank 0 1 = 0 := nearestRank_magnitude_one 0
  rw [hrank, roundedRank_of_whole hzero]
  rfl

/-- A double and the amount that it stands for are rounded alike. -/
theorem settled_signed (negative : Bool) (rank : Nat) :
    settled (signed negative (magnitude rank)) = signed negative
      (magnitude (roundedRank rank)) := by
  have hsigned := signed_natAbs_signed (f := fun n => magnitude (roundedRank (nearestRank n 1)))
    magnitude_roundedRank_zero negative (magnitude rank)
  rw [nearestRank_magnitude_one] at hsigned
  exact hsigned

end Double

/-! ## Numbers -/

namespace Number

/-- An integer and its amount have the same sign. -/
theorem mul_unit_neg_iff {n : Int} {unit : Nat} (h : 0 < unit) :
    n * (unit : Int) < 0 ↔ n < 0 := by
  constructor
  · intro hneg
    rcases Int.lt_or_le n 0 with hlt | hle
    · exact hlt
    · exact absurd (Int.mul_nonneg hle (Int.natCast_nonneg unit)) (Int.not_le.mpr hneg)
  · intro hneg
    exact Int.mul_neg_of_neg_of_pos hneg (Int.natCast_pos.mpr h)

/-- The amount of an integer: its sign, and the magnitude of it. -/
theorem of_place_int {k n : Int} (h : (Number.int k).place? = some (.units n)) :
    decide (n < 0) = decide (k < 0) ∧ n.natAbs = k.natAbs * twoTo 1074 := by
  rw [place?_int] at h
  have hn : n = k * twoTo 1074 := (Double.Place.units.inj (Option.some.inj h)).symm
  have hunit := twoTo_pos 1074
  generalize twoTo 1074 = unit at hn hunit
  rw [hn, Int.natAbs_mul, Int.natAbs_natCast]
  exact ⟨decide_eq_decide.mpr (mul_unit_neg_iff hunit), rfl⟩

/-- **Where a number is rounded to** is a matter of where it stands. -/
theorem place_roundHundredths {a : Number} {d : Double} {n : Int} (ha : a.place? = some (.units n))
    (hround : a.roundHundredths? = some d) : d.place? = some (.units (Double.settled n)) := by
  cases a with
  | int k =>
    obtain ⟨hsign, hamount⟩ := of_place_int ha
    have hplace := Double.place_ofHundredths hround
    rw [hplace, Double.settled, hsign, hamount, Double.roundedRank_nearestRank_whole,
      ← Double.whole_eq, Double.rankOfDecimal_whole]
  | real e =>
    cases e with
    | nan => cases ha
    | infinity negative => cases negative <;> cases ha
    | finite negative rank =>
      have hn : n = Double.signed negative (Double.magnitude rank) :=
        (Double.Place.units.inj (Option.some.inj ha)).symm
      have hplace := Double.place_ofHundredths hround
      rw [hplace, hn, Double.settled_signed]
      rfl

theorem exists_units_of_isAmount {a : Number} (h : a.isAmount = true) :
    ∃ n, a.place? = some (.units n) := by
  unfold isAmount at h
  split at h
  · rename_i n hn
    exact ⟨n, hn⟩
  · exact absurd h Bool.false_ne_true

theorem atMost_of_units {a b : Number} {m n : Int} (ha : a.place? = some (.units m))
    (hb : b.place? = some (.units n)) : a.atMost b = decide (m ≤ n) := by
  rw [atMost_of_places ha hb, Double.Place.before, ← decide_not]
  exact decide_eq_decide.mpr Int.not_lt

/-- A number is at least zero just if its amount is. -/
theorem zero_atMost_of_units {a : Number} {n : Int} (ha : a.place? = some (.units n)) :
    atMost (.int 0) a = decide (0 ≤ n) := by
  rw [atMost_of_units (place?_int 0) ha]
  generalize twoTo 1074 = unit
  rw [Int.zero_mul]

theorem atMost_zero_of_units {a : Number} {n : Int} (ha : a.place? = some (.units n)) :
    a.atMost (.int 0) = decide (n ≤ 0) := by
  rw [atMost_of_units ha (place?_int 0)]
  generalize twoTo 1074 = unit
  rw [Int.zero_mul]

theorem atMost_one_of_units {a : Number} {n : Int} (ha : a.place? = some (.units n)) :
    a.atMost (.int 1) = decide (n ≤ twoTo 1074) := by
  rw [atMost_of_units ha (place?_int 1)]
  generalize twoTo 1074 = unit
  rw [Int.one_mul]

theorem atMost_int {m n : Int} (h : m ≤ n) : atMost (.int m) (.int n) = true := by
  rw [atMost_of_units (place?_int m) (place?_int n)]
  generalize twoTo 1074 = unit
  exact decide_eq_true (Int.mul_le_mul_of_nonneg_right h (Int.natCast_nonneg unit))

/-- **Amounts are rounded to hundredths in order.** -/
theorem roundHundredths_mono {a b : Number} {d e : Double} (ha : a.isAmount = true)
    (hb : b.isAmount = true) (h : a.atMost b = true) (hd : a.roundHundredths? = some d)
    (he : b.roundHundredths? = some e) : Number.atMost (.real d) (.real e) = true := by
  obtain ⟨m, hm⟩ := exists_units_of_isAmount ha
  obtain ⟨n, hn⟩ := exists_units_of_isAmount hb
  have hmn : m ≤ n := by
    rw [atMost_of_units hm hn] at h
    exact of_decide_eq_true h
  have hplaced : (Number.real d).place? = some (.units (Double.settled m)) :=
    place_roundHundredths hm hd
  have hplacee : (Number.real e).place? = some (.units (Double.settled n)) :=
    place_roundHundredths hn he
  rw [atMost_of_units hplaced hplacee]
  exact decide_eq_true (Double.settled_mono hmn)

end Number

end TenantHost
