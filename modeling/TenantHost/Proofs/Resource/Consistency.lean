import TenantHost.Proofs.Resource.Ranges
/-!
# Consistent readings

Where no more memory is available than there is, and shares are shares, every figure of a snapshot
is proper. The part of the memory that is in use is a share however the two readings were given and
wherever they were rounded; but it is one only as long as the readings are consistent with each
other.
-/

namespace TenantHost

/-! ## Shares -/

namespace Double

/-- A part of a whole is no more than one. -/
theorem nearestRank_le_oneRank {num den : Nat} (hden : 0 < den) (h : num ≤ den) :
    nearestRank (num * twoTo 1074) den ≤ oneRank := by
  apply nearestRank_le hden
  rw [magnitude_oneRank, Nat.mul_comm]
  exact Nat.mul_le_mul_left _ h

/-- A part of a whole is a finite double. -/
theorem place_ofRatio_of_le {num den : Nat} (hden : 0 < den) (h : num ≤ den) :
    (ofRatio false num den).place?
      = some (.units (magnitude (nearestRank (num * twoTo 1074) den))) := by
  have hlimit : oneRank < rankLimit := by decide
  exact place_ofRatio (Nat.lt_of_le_of_lt (nearestRank_le_oneRank hden h) hlimit)

/-- Taking a part away from a double leaves no more than the double. -/
theorem exists_sub_finite {negative : Bool} {j k : Fin rankLimit}
    (hnonneg : 0 ≤ signed negative (magnitude k))
    (h : signed negative (magnitude k) ≤ magnitude j) :
    ∃ rank : Fin rankLimit, (finite false j).sub (finite negative k) = finite false rank ∧
      rank ≤ j := by
  have hunfold : (finite false j).sub (finite negative k)
      = if (magnitude j : Int) - signed negative (magnitude k) = 0 then
        signedZero (false && !negative)
        else ofRank (((magnitude j : Int) - signed negative (magnitude k)) < 0)
          (nearestRank ((magnitude j : Int) - signed negative (magnitude k)).natAbs 1) := rfl
  rw [hunfold]
  generalize signed negative (magnitude k) = taken at hnonneg h ⊢
  by_cases hzero : (magnitude j : Int) - taken = 0
  · rw [if_pos hzero]
    exact ⟨⟨0, by decide⟩, rfl, Nat.zero_le _⟩
  · rw [if_neg hzero, decide_eq_false (by omega : ¬ (magnitude j : Int) - taken < 0)]
    have hrank : nearestRank ((magnitude j : Int) - taken).natAbs 1 ≤ j := by
      apply nearestRank_le Nat.one_pos
      omega
    have hlimit := Nat.lt_of_le_of_lt hrank j.isLt
    refine ⟨⟨_, hlimit⟩, ?_, hrank⟩
    rw [ofRank, dif_pos hlimit]

/-- The double nearest to an amount, both in units of `2 ^ -1074`. -/
def nearestUnits (n : Int) : Int :=
  signed (n < 0) (magnitude (nearestRank n.natAbs 1))

theorem nearestUnits_mono {m n : Int} (h : m ≤ n) : nearestUnits m ≤ nearestUnits n := by
  have hmono : ∀ j k, j ≤ k → magnitude (nearestRank j 1) ≤ magnitude
      (nearestRank k 1) := by
    intro j k hjk
    apply magnitude_le_magnitude_iff.mpr
    exact nearestRank_mono Nat.one_pos Nat.one_pos (Nat.mul_le_mul_right 1 hjk)
  exact signed_mono hmono h

theorem nearestUnits_of_nonneg {n : Int} (h : 0 ≤ n) :
    nearestUnits n = magnitude (nearestRank n.natAbs 1) := by
  rw [nearestUnits, decide_eq_false (Int.not_lt.mpr h), signed_false]

theorem nearestUnits_pos {n : Int} (h : 0 < n) : 0 < nearestUnits n := by
  have hrank : 1 ≤ nearestRank n.natAbs 1 := by
    apply le_nearestRank Nat.one_pos
    have hone : magnitude 1 = 1 := by decide
    rw [hone]
    omega
  have hpos : magnitude 0 < magnitude (nearestRank n.natAbs 1) :=
    magnitude_lt_magnitude_iff.mpr hrank
  rw [nearestUnits_of_nonneg (Int.le_of_lt h)]
  exact Int.natCast_pos.mpr hpos

end Double

namespace Number

/-- A number becomes the double nearest to it. -/
theorem exists_toDouble {a : Number} {n : Int} (ha : a.place? = some (.units n))
    (hconvertible : a.isUnconvertible = false) :
    ∃ negative rank, a.toDouble = .ok (.finite negative rank) ∧
      Double.signed negative (Double.magnitude rank) = Double.nearestUnits n := by
  cases a with
  | int k =>
    have hsmall : k.natAbs < Double.conversionLimit :=
      Nat.not_le.mp (of_decide_eq_false hconvertible)
    have hlimit := Double.nearestRank_lt_rankLimit_iff.mpr hsmall
    obtain ⟨hsign, hamount⟩ := of_place_int ha
    refine ⟨decide (k < 0), ⟨_, hlimit⟩, ?_, ?_⟩
    · rw [toDouble_int, if_pos hsmall, Double.ofInt, Double.ofRatio, Double.ofRank, dif_pos hlimit]
    · rw [Double.nearestUnits, hsign, hamount]
  | real d =>
    cases d with
    | nan => cases ha
    | infinity negative => cases negative <;> cases ha
    | finite negative rank =>
      have hn : Double.signed negative (Double.magnitude rank) = n :=
        Double.Place.units.inj (Option.some.inj ha)
      refine ⟨negative, rank, rfl, ?_⟩
      have hzero : Double.magnitude (Double.nearestRank 0 1) = 0 := by
        rw [Double.nearestRank_zero Nat.one_pos, Double.magnitude_zero]
      have hsigned := Double.signed_natAbs_signed (f :=
        fun m => Double.magnitude (Double.nearestRank m 1))
        hzero negative (Double.magnitude rank)
      rw [Double.nearestRank_magnitude_one] at hsigned
      rw [← hn, Double.nearestUnits, hsigned]

/-- A number between two integers has a place of its own. -/
theorem exists_units_of_between {a : Number} {low high : Int} (hleast : atMost (.int low) a = true)
    (hmost : a.atMost (.int high) = true) : ∃ n, a.place? = some (.units n) := by
  obtain ⟨least, place, hleastPlace, hplace, hbelow⟩ := exists_places_of_atMost hleast
  obtain ⟨place', most, hplace', hmostPlace, hbeyond⟩ := exists_places_of_atMost hmost
  obtain rfl : place = place' := Option.some.inj (hplace.symm.trans hplace')
  rw [place?_int] at hleastPlace hmostPlace
  generalize twoTo 1074 = unit at hleastPlace hmostPlace
  rw [← Option.some.inj hleastPlace] at hbelow
  rw [← Option.some.inj hmostPlace] at hbeyond
  cases place with
  | bottom => cases hbelow
  | units n => exact ⟨n, hplace⟩
  | top => cases hbeyond

/-- Unless both of them are integers, two numbers are subtracted as doubles. -/
theorem sub_of_toDouble {a b : Number} {d e : Double} (ha : a.toDouble = .ok d)
    (hb : b.toDouble = .ok e)
    (h : ∀ m n, ¬ (a = .int m ∧ b = .int n)) : a.sub b = .ok (.real (d.sub e)) := by
  have hdoubles : a.sub b = (do return .real ((← a.toDouble).sub (← b.toDouble))) := by
    cases a with
    | int m =>
      cases b with
      | int n => exact absurd ⟨rfl, rfl⟩ (h m n)
      | real e => rfl
    | real d => rfl
  rw [hdoubles, ha, hb]
  rfl

end Number

namespace Monitor

/-- Whether a number is a share of a whole. -/
def isShare (a : Number) : Bool :=
  Number.atMost (.int 0) a && a.atMost (.int 1)

theorem isShare_of_units {a : Number} {n : Int} (ha : a.place? = some (.units n)) :
    isShare a = true ↔ 0 ≤ n ∧ n ≤ twoTo 1074 := by
  rw [isShare, Number.zero_atMost_of_units ha, Number.atMost_one_of_units ha, Bool.and_eq_true_iff,
    decide_eq_true_eq, decide_eq_true_eq]

theorem isAmount_of_isShare {a : Number} (h : isShare a = true) : a.isAmount = true := by
  obtain ⟨hleast, hmost⟩ := Bool.and_eq_true_iff.mp h
  obtain ⟨n, ha⟩ := Number.exists_units_of_between hleast hmost
  exact Number.isAmount_of_units ha

theorem isShare_of_place {d : Double} {rank : Nat} (hrank : rank ≤ Double.oneRank)
    (hd : d.place? = some (.units (Double.magnitude rank))) : isShare (.real d) = true := by
  have hone : Double.magnitude rank ≤ twoTo 1074 := by
    rw [← Double.magnitude_oneRank]
    exact Double.magnitude_le_magnitude_iff.mpr hrank
  have hplace : (Number.real d).place? = some (.units (Double.magnitude rank)) := hd
  exact (isShare_of_units hplace).mpr ⟨Int.natCast_nonneg _, Int.ofNat_le.mpr hone⟩

/-- An integer that is divided by a greater one. -/
theorem exists_quotient_int {m n : Int} (hm : 0 ≤ m) (hn : 0 < n) (h : m ≤ n) :
    ∃ d, quotient (.int m) (.int n) = .ok (.real d) ∧ isShare (.real d) = true := by
  have hden : 0 < n.natAbs := by omega
  have hnum : m.natAbs ≤ n.natAbs := by omega
  have hrank := Double.nearestRank_le_oneRank hden hnum
  have hplace := Double.place_ofRatio_of_le hden hnum
  have hfinite : (Double.ofRatio false m.natAbs n.natAbs).isFinite = true := by
    rw [← Number.isAmount_real]
    exact Number.isAmount_of_units hplace
  refine ⟨_, ?_, isShare_of_place hrank hplace⟩
  rw [quotient, Number.div, decide_eq_false (Int.not_lt.mpr hm),
    decide_eq_false (Int.not_lt.mpr (Int.le_of_lt hn)), bne_self_eq_false, Number.within,
    if_pos hfinite]

/-- A double that is divided by a greater one. -/
theorem exists_quotient_real {total : Number} {j k : Fin Double.rankLimit}
    (htotal : total.toDouble = .ok (.finite false k)) (hpos : 0 < Double.magnitude k)
    (h : j ≤ k) :
    ∃ d, quotient (.real (.finite false j)) total = .ok (.real d) ∧
      isShare (.real d) = true := by
  have hmagnitude := Double.magnitude_le_magnitude_iff.mpr h
  have hrank := Double.nearestRank_le_oneRank hpos hmagnitude
  have hplace := Double.place_ofRatio_of_le hpos hmagnitude
  have hne : ¬ k.val = 0 := by
    intro hzero
    rw [hzero, Double.magnitude_zero] at hpos
    exact absurd hpos (Nat.lt_irrefl 0)
  have hdiv : (Double.finite false j).div (.finite false k)
      = Double.ofRatio false (Double.magnitude j) (Double.magnitude k) := by
    rw [Double.div, if_neg hne, bne_self_eq_false]
  refine ⟨_, ?_, isShare_of_place hrank hplace⟩
  rw [quotient, Number.div_real, htotal, ← hdiv]
  rfl

/-- The order of integers is that of their amounts. -/
theorem int_of_units {x y t a : Int} (hx : (Number.int x).place? = some (.units t))
    (hy : (Number.int y).place? = some (.units a)) (hpos : 0 < t) (hnonneg : 0 ≤ a)
    (h : a ≤ t) :
    0 < x ∧ 0 ≤ y ∧ y ≤ x := by
  rw [Number.place?_int] at hx hy
  have hunit := twoTo_pos 1074
  generalize twoTo 1074 = unit at hx hy hunit
  obtain rfl := Double.Place.units.inj (Option.some.inj hx)
  obtain rfl := Double.Place.units.inj (Option.some.inj hy)
  have hunit' : (0 : Int) < unit := Int.natCast_pos.mpr hunit
  refine ⟨?_, ?_, Int.le_of_mul_le_mul_right h hunit'⟩
  · exact Int.pos_of_mul_pos_left hpos hunit'
  · exact Int.nonneg_of_mul_nonneg_left hnonneg hunit'

theorem bind_quotient_of_difference {total available used : Number}
    (h : difference total available = .ok used) :
    (difference total available >>= fun used => quotient used total) = quotient used total := by
  rw [h]
  rfl

/-- Integers are subtracted exactly before they are divided. -/
theorem exists_usedPart_int {x y : Int} (hx : 0 < x) (hy : 0 ≤ y) (h : y ≤ x) :
    ∃ d, (difference (.int x) (.int y) >>= fun used => quotient used (.int x)) = .ok (.real d) ∧
      isShare (.real d) = true := by
  have hdifference : difference (.int x) (.int y) = .ok (.int (x - y)) := by
    rw [difference, Number.sub]
  rw [bind_quotient_of_difference hdifference]
  exact exists_quotient_int (Int.sub_nonneg_of_le h) hx (Int.sub_le_self x hy)

/-- Other numbers are subtracted and divided as the doubles that are nearest to them. -/
theorem exists_usedPart_real {total available : Number} {t a : Int}
    (htotal : total.place? = some (.units t)) (havailable : available.place? = some (.units a))
    (hpos : 0 < t) (hnonneg : 0 ≤ a) (h : a ≤ t) (htotalSmall : total.isTooLarge = false)
    (havailableSmall : available.isTooLarge = false)
    (hboth : ∀ x y, ¬ (total = .int x ∧ available = .int y)) :
    ∃ d, (difference total available >>= fun used => quotient used total) = .ok (.real d) ∧
      isShare (.real d) = true := by
  obtain ⟨negative, k, htotalDouble, hk⟩ := Number.exists_toDouble htotal
    (Number.isUnconvertible_of_not_isTooLarge htotalSmall)
  obtain ⟨negative', j, havailableDouble, hj⟩ := Number.exists_toDouble havailable
    (Number.isUnconvertible_of_not_isTooLarge havailableSmall)
  -- the total stays positive as a double, and what is available stays below it
  have hkpos := Double.nearestUnits_pos hpos
  obtain rfl : negative = false := by
    cases negative with
    | false => rfl
    | true =>
      rw [← hk, Double.signed_true] at hkpos
      omega
  rw [Double.signed_false] at hk
  have hjnonneg : 0 ≤ Double.signed negative' (Double.magnitude j) := by
    rw [hj, Double.nearestUnits_of_nonneg hnonneg]
    exact Int.natCast_nonneg _
  have hjk : Double.signed negative' (Double.magnitude j) ≤ Double.magnitude k := by
    rw [hj, hk]
    exact Double.nearestUnits_mono h
  obtain ⟨rank, hsub, hrank⟩ := Double.exists_sub_finite hjnonneg hjk
  have hdifference : difference total available = .ok (.real (.finite false rank)) := by
    rw [difference, Number.sub_of_toDouble htotalDouble havailableDouble hboth, hsub]
  have hmagnitude : 0 < Double.magnitude k := by
    rw [← hk] at hkpos
    exact Int.natCast_pos.mp hkpos
  rw [bind_quotient_of_difference hdifference]
  exact exists_quotient_real htotalDouble hmagnitude hrank

/-- **The part of the memory that is in use is a share**, if no more is available than there is. -/
theorem exists_usedPart {total available : Number} {t a : Int}
    (htotal : total.place? = some (.units t))
    (havailable : available.place? = some (.units a)) (hpos : 0 < t) (hnonneg : 0 ≤ a)
    (h : a ≤ t)
    (htotalSmall : total.isTooLarge = false) (havailableSmall : available.isTooLarge = false) :
    ∃ d, (difference total available >>= fun used => quotient used total) = .ok (.real d) ∧
      isShare (.real d) = true := by
  -- two integers have no doubles in between that could be rounded
  by_cases hints : ∃ x y, total = .int x ∧ available = .int y
  · obtain ⟨x, y, rfl, rfl⟩ := hints
    obtain ⟨hx, hy, hyx⟩ := int_of_units htotal havailable hpos hnonneg h
    exact exists_usedPart_int hx hy hyx
  · exact exists_usedPart_real htotal havailable hpos hnonneg h htotalSmall havailableSmall
      fun x y hxy => hints ⟨x, y, hxy⟩

/-! ## Proper figures -/

theorem refusedFrom_gt_one : twoTo 1074 < Double.refusedFrom := by
  decide +kernel

theorem isTooLarge_of_isShare {a : Number} (h : isShare a = true) : a.isTooLarge = false := by
  obtain ⟨n, ha⟩ := Number.exists_units_of_isAmount (isAmount_of_isShare h)
  obtain ⟨hnonneg, hone⟩ := (isShare_of_units ha).mp h
  apply Number.isTooLarge_of_lt ha
  refine Nat.lt_of_le_of_lt ?_ refusedFrom_gt_one
  generalize twoTo 1074 = unit at hone ⊢
  omega

/-- A share is a proper figure of a field that gives one. -/
theorem isProper_of_isShare {a : Number} (h : isShare a = true) :
    Figure.isProper .share (.ok (some a)) = true := by
  have hamount := isAmount_of_isShare h
  obtain ⟨n, ha⟩ := Number.exists_units_of_isAmount hamount
  obtain ⟨hnonneg, hone⟩ := (isShare_of_units ha).mp h
  have hlow := (Number.less_halfBelowZero_iff ha).mpr (Double.settled_nonneg_iff.mpr (.inl hnonneg))
  have hhigh := (Number.less_halfBeyondOne_iff ha).mpr (Double.settled_le_one hone)
  rw [Figure.isProper, hamount, isTooLarge_of_isShare h, Measure.bounds, hlow, hhigh]
  rfl

/-- A share is rounded to one. -/
theorem isShare_of_rounded {a : Number} {d : Double} (h : isShare a = true)
    (hround : a.roundHundredths? = some d) : isShare (.real d) = true := by
  obtain ⟨n, ha⟩ := Number.exists_units_of_isAmount (isAmount_of_isShare h)
  obtain ⟨hnonneg, hone⟩ := (isShare_of_units ha).mp h
  have hd : (Number.real d).place? = some (.units (Double.settled n)) :=
    Number.place_roundHundredths ha hround
  exact (isShare_of_units hd).mpr
    ⟨Double.settled_nonneg_iff.mpr (.inl hnonneg), Double.settled_le_one hone⟩

/-- What is not negative is a proper figure of a field that gives an amount, if it is not too
large. -/
theorem isProper_of_nonneg {a : Number} {n : Int} (ha : a.place? = some (.units n))
    (hnonneg : 0 ≤ n)
    (hsmall : a.isTooLarge = false) : Figure.isProper .amount (.ok (some a)) = true := by
  have hlow := (Number.less_halfBelowZero_iff ha).mpr (Double.settled_nonneg_iff.mpr (.inl hnonneg))
  rw [Figure.isProper, hsmall, Measure.bounds, hlow]
  exact Bool.or_true _

/-- A load is never negative, so its figure is proper unless it is too large. -/
theorem loadFigure_isProper {load : Number} (hsmall : load.isTooLarge = false) :
    (loadFigure load).isProper .amount = true := by
  have hload : isLoad load = .ok (load.isAmount && Number.atMost (.int 0) load) := by
    rw [isLoad, finite_eq, Number.isUnconvertible_of_not_isTooLarge hsmall]
    rfl
  rw [loadFigure, hload]
  cases hvalid : load.isAmount && Number.atMost (.int 0) load with
  | false => rfl
  | true =>
    obtain ⟨hamount, hleast⟩ := Bool.and_eq_true_iff.mp hvalid
    obtain ⟨n, hplace⟩ := Number.exists_units_of_isAmount hamount
    have hnonneg : 0 ≤ n := by
      rw [Number.zero_atMost_of_units hplace] at hleast
      exact of_decide_eq_true hleast
    exact isProper_of_nonneg hplace hnonneg hsmall

/-- Bytes in range are a proper figure in gigabytes. -/
theorem gigabytesFigure_isProper {bytes : Number} (h : isInRange bytes = true) :
    (gigabytesFigure bytes).isProper .amount = true := by
  obtain ⟨n, hplace, hnonneg, hsmall⟩ := exists_units_of_isInRange h
  obtain ⟨d, hquotient, hd⟩ := exists_quotient_gigabyte hplace
    (Number.isUnconvertible_of_not_isTooLarge (Number.isTooLarge_of_lt hplace hsmall))
  have hgigabytes : 0 ≤ Double.gigabytes n := by
    rw [Double.gigabytes, decide_eq_false (Int.not_lt.mpr hnonneg), Double.signed_false]
    exact Int.natCast_nonneg _
  rw [gigabytesFigure, hquotient]
  exact isProper_of_nonneg hd hgigabytes
    (Number.isTooLarge_of_lt hd (Double.natAbs_gigabytes_lt hsmall))

/-- A number that is not too large has few enough digits to be shown. -/
theorem isShowable_of_not_isTooLarge {a : Number} (h : a.isTooLarge = false) :
    a.isShowable = true := by
  cases a with
  | int n =>
    rw [Number.isTooLarge_int] at h
    have hdigits : tenTo 26 ≤ tenTo Number.digitLimit := tenTo_mono (by decide)
    rw [Number.isShowable, Number.isShowableInt, decide_eq_true_eq]
    exact Nat.lt_of_lt_of_le (Nat.not_le.mp (of_decide_eq_false h)) hdigits
  | real d => rfl

/-- **The part of the memory that is in use is a proper figure**, if both numbers of bytes are in
range and no more is available than there is. -/
theorem usageFigure_isProper {total available : Number} (htotal : isInRange total = true)
    (havailable : isInRange available = true) (h : available.atMost total = true) :
    (usageFigure (total, available)).isProper .share = true := by
  obtain ⟨t, ht, -, htSmall⟩ := exists_units_of_isInRange htotal
  obtain ⟨a, ha, hnonneg, haSmall⟩ := exists_units_of_isInRange havailable
  have htotalSmall := Number.isTooLarge_of_lt ht htSmall
  have hle : a ≤ t := by
    rw [Number.atMost_of_units ha ht] at h
    exact of_decide_eq_true h
  cases hpositive : total.atMost (.int 0) with
  | true =>
    have hshown : shown total = .ok total.text := by
      rw [shown, if_pos (isShowable_of_not_isTooLarge htotalSmall)]
    rw [usageFigure, if_pos hpositive, hshown]
    rfl
  | false =>
    have hpos : 0 < t := by
      rw [Number.atMost_zero_of_units ht] at hpositive
      exact Int.not_le.mp (of_decide_eq_false hpositive)
    obtain ⟨d, hused, hshare⟩ := exists_usedPart ht ha hpos hnonneg hle htotalSmall
      (Number.isTooLarge_of_lt ha haSmall)
    rw [usageFigure, if_neg (by rw [hpositive]; exact Bool.false_ne_true), hused]
    exact isProper_of_isShare hshare

/-! ## Consistent sources -/

variable {σ : Type}

/-- Readings that are consistent: whatever is read, numbers of bytes are not negative and below `10
^ 26`, no more memory is available than there is, loads are below `10 ^ 26`, and the load of the
processors is a share. A reading may as well fail. -/
structure IsConsistent (source : Source σ) : Prop where
  total : ∀ {s bytes}, (source.read .totalMemory s).1 = .ok bytes → isInRange bytes = true
  available : ∀ {s bytes}, (source.read .availableMemory s).1 = .ok bytes →
    isInRange bytes = true
  memory : ∀ {s total available}, (readMemory source s).1 = .ok (total, available) →
    available.atMost total = true
  systemLoad : ∀ {s load}, (source.read .systemLoad s).1 = .ok load → load.isTooLarge = false
  hardwareLoad : ∀ {s load}, (source.read .hardwareLoad s).1 = .ok load →
    load.isTooLarge = false
  cpuLoad : ∀ {s usage}, (source.read .cpuLoad s).1 = .ok usage → isShare usage = true

/-- The total and the available memory are read one after the other. -/
theorem exists_readings_of_readMemory {source : Source σ} {s : Bool × World σ}
    {total available : Number} (h : (readMemory source s).1 = .ok (total, available)) :
    (source.read .totalMemory s).1 = .ok total ∧
      ∃ t, (source.read .availableMemory t).1 = .ok available := by
  have hread : readMemory source s = (.ok (total, available), (readMemory source s).2) :=
    Prod.ext h rfl
  unfold readMemory at hread
  obtain ⟨first, t, htotal, hread⟩ := Action.bind_eq_ok_iff.mp hread
  obtain ⟨second, u, havailable, hread⟩ := Action.bind_eq_ok_iff.mp hread
  obtain ⟨rfl, rfl⟩ := Prod.mk.inj (Except.ok.inj (congrArg Prod.fst hread))
  exact ⟨congrArg Prod.fst htotal, t, congrArg Prod.fst havailable⟩

/-- A reading that fails makes no figure, which is proper. -/
theorem ofReading_isProper {α : Type} {figureOf : α → Figure} {measure : Measure}
    {reading : Except Fault α}
    (h : ∀ value, reading = .ok value → (figureOf value).isProper measure = true) :
    (ofReading figureOf reading).isProper measure = true := by
  cases reading with
  | error fault => rfl
  | ok value => exact h value rfl

/-- The load of the system is taken if it is a load, and that of the hardware otherwise; both are
proper. -/
theorem loadFigureOf_isProper {system hardware : Except Fault Number}
    (hsystem : ∀ load, system = .ok load → load.isTooLarge = false)
    (hhardware : ∀ load, hardware = .ok load → load.isTooLarge = false) :
    (loadFigureOf system hardware).isProper .amount = true := by
  have hproper := ofReading_isProper fun load h => loadFigure_isProper (hsystem load h)
  have hother := ofReading_isProper fun load h => loadFigure_isProper (hhardware load h)
  unfold loadFigureOf
  split
  · rename_i load hload
    split
    · exact hother
    · rw [← hload]
      exact hproper
  · exact hother

/-- **Consistent readings make proper figures.** -/
theorem IsConsistent.areProper {source : Source σ} (h : IsConsistent source)
    (s : Bool × World σ) :
    (figuresOf source s).AreProper where
  memoryUsage := ofReading_isProper fun memory hread => by
    obtain ⟨htotal, t, havailable⟩ := exists_readings_of_readMemory hread
    exact usageFigure_isProper (h.total htotal) (h.available havailable) (h.memory hread)
  availableMemory := ofReading_isProper fun _ hread => gigabytesFigure_isProper (h.available hread)
  totalMemory := ofReading_isProper fun _ hread => gigabytesFigure_isProper (h.total hread)
  loadAverage := loadFigureOf_isProper (fun _ hread => h.systemLoad hread)
    fun _ hread => h.hardwareLoad hread
  cpuUsage := ofReading_isProper fun _ hread => isProper_of_isShare (h.cpuLoad hread)

/-- **When a snapshot says what it is meant to.** It returns with each field either the answer that
nothing is available, for want of a finite figure, or an answer in the field's range, just if all
figures are proper: none is too large to be rounded, and none lies half a hundredth or more outside
of its range. Consistent readings make such figures. -/
theorem snapshot_backed_iff (source : Source σ) (s : Bool × World σ) :
    ((∃ taken s', snapshot source s = (.ok taken, s') ∧ (figuresOf source s).Backs taken)
      ↔ (figuresOf source s).AreProper) ∧
    (IsConsistent source → ∃ taken s', snapshot source s = (.ok taken, s') ∧
      (figuresOf source s).Backs taken) := by
  refine ⟨exists_backed_snapshot_iff source s, fun h => ?_⟩
  exact (exists_backed_snapshot_iff source s).mpr (h.areProper s)

/-- A source with a total and an available number of bytes, a load of one and a quarter of the
processors in use. -/
def withMemory (total available : Int) : Source Unit :=
  .given fun metric =>
    match metric with
    | .totalMemory => pure (.int total)
    | .availableMemory => pure (.int available)
    | .cpuLoad => pure (.real (.ofRatio false 1 4))
    | _ => pure (.int 1)

/-- Where more memory is said to be available than there is, less than nothing is in use. -/
theorem snapshot_overcommitted :
    (snapshot (withMemory 17179869184 25769803776) (false, World.start ())).1.toOption.map
        Snapshot.memoryUsage = some (.ofRatio true 1 2) ∧
      Double.ofRatio true 1 2 ≠ unavailable ∧
      Measure.share.covers (.ofRatio true 1 2) = false := by
  decide +kernel

theorem withMemory_isConsistent {total available : Int} (htotal : isInRange (.int total) = true)
    (havailable : isInRange (.int available) = true) (h : available ≤ total) :
    IsConsistent (withMemory total available) where
  total hread := by
    rw [← Except.ok.inj hread]
    exact htotal
  available hread := by
    rw [← Except.ok.inj hread]
    exact havailable
  memory hread := by
    obtain ⟨rfl, rfl⟩ := Prod.mk.inj (Except.ok.inj hread)
    exact Number.atMost_int h
  systemLoad hread := by
    rw [← Except.ok.inj hread]
    decide +kernel
  hardwareLoad hread := by
    rw [← Except.ok.inj hread]
    decide +kernel
  cpuLoad hread := by
    rw [← Except.ok.inj hread]
    decide +kernel

/-- With half of the memory available, all is well. -/
theorem snapshot_backed_of_half :
    ∃ taken s', snapshot (withMemory 17179869184 8589934592) (false, World.start ())
      = (.ok taken, s') ∧
      (figuresOf (withMemory 17179869184 8589934592) (false, World.start ())).Backs taken := by
  have hconsistent : IsConsistent (withMemory 17179869184 8589934592) :=
    withMemory_isConsistent (by decide +kernel) (by decide +kernel) (by decide)
  exact (snapshot_backed_iff _ _).2 hconsistent

end Monitor

end TenantHost
