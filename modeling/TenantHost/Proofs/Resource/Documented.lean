import TenantHost.Proofs.Resource.Consistency
import TenantHost.Proofs.Resource.Operations
/-!
# Sensors that keep to their documentation

Sensors are documented to give numbers of bytes, loads and percentages, and may always fail. What
they give is then far from the numbers that arithmetic or rounding is refused for, also where it is
not consistent: more memory may be said to be available than there is. So no operation of a monitor
fails on it.
-/

namespace TenantHost

variable {σ : Type}

/-! ## Documented ranges -/

namespace Number

/-- Whether a number lies between zero and a bound. -/
def isUpTo (bound : Nat) (a : Number) : Bool :=
  atMost (.int 0) a && a.atMost (.int bound)

theorem exists_units_of_isUpTo {bound : Nat} {a : Number} (h : a.isUpTo bound = true) :
    ∃ n, a.place? = some (.units n) ∧ 0 ≤ n ∧ n ≤ bound * twoTo 1074 := by
  obtain ⟨hleast, hmost⟩ := Bool.and_eq_true_iff.mp h
  obtain ⟨n, ha⟩ := exists_units_of_between hleast hmost
  rw [zero_atMost_of_units ha] at hleast
  rw [atMost_of_units ha (place?_int bound)] at hmost
  exact ⟨n, ha, of_decide_eq_true hleast, of_decide_eq_true hmost⟩

theorem isTooLarge_of_isUpTo {bound : Nat} {a : Number} (h : a.isUpTo bound = true)
    (hbound : bound < tenTo 26) : a.isTooLarge = false := by
  obtain ⟨n, ha, hnonneg, hmost⟩ := exists_units_of_isUpTo h
  apply isTooLarge_of_lt ha
  have hunit := twoTo_pos 1074
  unfold Double.refusedFrom
  generalize twoTo 1074 = unit at hmost hunit ⊢
  have hlt : bound * unit < tenTo 26 * unit := Nat.mul_lt_mul_of_pos_right hbound hunit
  omega

end Number

/-- Sensors that give what they are documented to give, unless they fail. -/
structure Sensors.KeepRanges (sensors : Sensors σ) : Prop where
  totalMemory : ∀ {o value}, (sensors.totalMemory o).1 = .ok value →
    ∃ n : Nat, value = .int n ∧ n ≤ twoTo 50
  availableMemory : ∀ {o value}, (sensors.availableMemory o).1 = .ok value →
    ∃ n : Nat, value = .int n ∧ n ≤ twoTo 50
  systemLoad : ∀ {o o' reading value}, sensors.systemLoad o = (.ok (some reading), o') →
    (reading o').1 = .ok value → value.isUpTo (tenTo 6) = true
  hardwareLoad : ∀ {o value}, (sensors.hardwareLoad o).1 = .ok value →
    value.isUpTo (tenTo 6) = true
  cpuPercent : ∀ {o value}, (sensors.cpuPercent o).1 = .ok value → value.isUpTo 100 = true

/-! ## Quotients of documented numbers -/

namespace Double

/-- Numbers of bytes stay far below the least amount that is not rounded. -/
theorem bytes_values :
    nearestRank (twoTo 50 * twoTo 1074) 1 < refusedRank ∧ refusedRank ≤ rankLimit ∧
      oneRank < refusedRank := by
  decide +kernel

/-- A quotient of a low rank is a finite double that can be rounded. -/
theorem isTooLarge_ofRatio {negative : Bool} {num den : Nat}
    (h : nearestRank (num * twoTo 1074) den < refusedRank) :
    (ofRatio negative num den).isFinite = true ∧
      (Number.real (ofRatio negative num den)).isTooLarge = false := by
  have hlimit : nearestRank (num * twoTo 1074) den < rankLimit :=
    Nat.lt_of_lt_of_le h bytes_values.2.1
  have hplace : (Number.real (ofRatio negative num den)).place? = _ := place_ofRatio hlimit
  constructor
  · rw [← Number.isAmount_real]
    exact Number.isAmount_of_units hplace
  · apply Number.isTooLarge_of_lt hplace
    rw [Number.natAbs_signed]
    exact lt_refusedRank_iff.mp h

end Double

namespace Number

/-- A number is divided by a double as a double. -/
theorem div_of_toDouble {a : Number} {d : Double} (ha : a.toDouble = .ok d) (e : Double) :
    a.div (.real e) = .ok (d.div e) := by
  have hdoubles : a.div (.real e)
      = (do return (← a.toDouble).div (← (Number.real e).toDouble)) := by
    cases a <;> rfl
  rw [hdoubles, ha]
  rfl

theorem toDouble_hundred : (Number.int 100).toDouble = .ok (Double.ofNat 100) := by
  have hsmall : (100 : Int).natAbs < Double.conversionLimit :=
    Nat.lt_of_lt_of_le (by decide) tenTo_le_conversionLimit
  rw [toDouble_int, if_pos hsmall, Double.ofInt, Double.ofNat,
    decide_eq_false (by decide : ¬ (100 : Int) < 0)]
  rfl

/-- A percentage is divided by a hundred. -/
theorem exists_div_hundred {percent : Number} (h : percent.isUpTo 100 = true) :
    ∃ d, percent.div (.real (Double.ofNat 100)) = .ok d ∧
      (Number.real d).isTooLarge = false := by
  obtain ⟨n, hplace, hnonneg, hmost⟩ := exists_units_of_isUpTo h
  obtain ⟨negative, j, hdouble, hj⟩ := exists_toDouble hplace
    (isUnconvertible_of_not_isTooLarge (isTooLarge_of_isUpTo h (by decide)))
  obtain ⟨negative', k, hhundred, hk⟩ := exists_toDouble (place?_int 100)
    (isUnconvertible_of_not_isTooLarge (by rw [isTooLarge_int]; exact decide_eq_false (by decide)))
  rw [toDouble_hundred] at hhundred
  -- as doubles they are in the same order, whatever their signs
  have hunits := Double.nearestUnits_mono hmost
  have hleast : 0 ≤ Double.nearestUnits n := by
    rw [Double.nearestUnits_of_nonneg hnonneg]
    exact Int.natCast_nonneg _
  have hgreatest : 0 < Double.nearestUnits (((100 : Nat) : Int) * twoTo 1074) := by
    apply Double.nearestUnits_pos
    exact Int.mul_pos (by decide) (Int.natCast_pos.mpr (twoTo_pos 1074))
  have hmagnitude : Double.magnitude j = (Double.nearestUnits n).natAbs := by
    rw [← hj, natAbs_signed]
  have hmagnitude' : Double.magnitude k
      = (Double.nearestUnits (((100 : Nat) : Int) * twoTo 1074)).natAbs := by
    rw [← natAbs_signed negative' (Double.magnitude k), hk]
    rfl
  generalize Double.nearestUnits (((100 : Nat) : Int) * twoTo 1074) = hundred at *
  have hpos : 0 < Double.magnitude k := by omega
  have hle : Double.magnitude j ≤ Double.magnitude k := by omega
  have hne : ¬ k.val = 0 := by
    intro hzero
    rw [hzero, Double.magnitude_zero] at hpos
    exact absurd hpos (Nat.lt_irrefl 0)
  have hdiv : (Double.finite negative j).div (.finite negative' k)
      = Double.ofRatio (negative != negative') (Double.magnitude j) (Double.magnitude k) := by
    rw [Double.div, if_neg hne]
  refine ⟨_, div_of_toDouble hdouble _, ?_⟩
  rw [Except.ok.inj hhundred, hdiv]
  refine (Double.isTooLarge_ofRatio ?_).2
  exact Nat.lt_of_le_of_lt (Double.nearestRank_le_oneRank hpos hle) Double.bytes_values.2.2

end Number

namespace Monitor

/-! ## Figures of documented readings -/

/-- A proper figure is manageable. -/
theorem isManageable_of_isProper {measure : Measure} {figure : Figure}
    (h : figure.isProper measure = true) : figure.isManageable = true := by
  cases figure with
  | error fault => cases h
  | ok made =>
    cases made with
    | none => rfl
    | some a =>
      cases hlarge : a.isTooLarge with
      | false =>
        rw [Figure.isManageable, hlarge]
        rfl
      | true =>
        rw [Figure.isProper, hlarge, Number.isAmount_of_isTooLarge hlarge] at h
        exact absurd h Bool.false_ne_true

theorem exists_quotient_bytes {used : Int} {total : Nat} (hpos : 0 < total)
    (h : used.natAbs ≤ twoTo 50) :
    ∃ d, quotient (.int used) (.int total) = .ok (.real d) ∧
      (Number.real d).isTooLarge = false := by
  have hrank : Double.nearestRank (used.natAbs * twoTo 1074) total < Double.refusedRank := by
    apply Nat.lt_of_le_of_lt _ Double.bytes_values.1
    apply Double.nearestRank_mono hpos Nat.one_pos
    rw [Nat.mul_one]
    calc used.natAbs * twoTo 1074 ≤ twoTo 50 * twoTo 1074 := Nat.mul_le_mul_right _ h
      _ ≤ twoTo 50 * twoTo 1074 * total := Nat.le_mul_of_pos_right _ hpos
  obtain ⟨hfinite, hsmall⟩ := @Double.isTooLarge_ofRatio (decide (used < 0)) _ _ hrank
  refine ⟨_, ?_, hsmall⟩
  rw [quotient, Number.div, decide_eq_false (Int.not_lt.mpr (Int.natCast_nonneg total)),
    Bool.bne_false, Int.natAbs_natCast, Number.within, if_pos hfinite]

/-- The part in use is manageable, also if less than nothing is in use. -/
theorem usageFigure_isManageable {total available : Nat} (htotal : total ≤ twoTo 50)
    (havailable : available ≤ twoTo 50) :
    (usageFigure (.int total, .int available)).isManageable = true := by
  have hbytes : twoTo 50 < tenTo 26 := by decide
  cases hpositive : (Number.int total).atMost (.int 0) with
  | true =>
    have hsmall : (Number.int total).isTooLarge = false := by
      rw [Number.isTooLarge_int, Int.natAbs_natCast]
      exact decide_eq_false (Nat.not_le.mpr (Nat.lt_of_le_of_lt htotal hbytes))
    rw [usageFigure, if_pos hpositive, shown, if_pos (isShowable_of_not_isTooLarge hsmall)]
    rfl
  | false =>
    have hpos : 0 < total := by
      rw [Number.atMost_zero_of_units (Number.place?_int total), decide_eq_false_iff_not]
        at hpositive
      rcases Nat.eq_zero_or_pos total with rfl | hpos
      · rw [Int.natCast_zero, Int.zero_mul] at hpositive
        exact absurd (Int.le_refl 0) hpositive
      · exact hpos
    have hused : ((total : Int) - available).natAbs ≤ twoTo 50 := by omega
    obtain ⟨d, hquotient, hsmall⟩ := exists_quotient_bytes hpos hused
    have hdifference : difference (.int total) (.int available)
        = .ok (.int (total - available)) := by
      rw [difference, Number.sub]
    rw [usageFigure, if_neg (by rw [hpositive]; exact Bool.false_ne_true),
      bind_quotient_of_difference hdifference, hquotient]
    show (!(Number.real d).isTooLarge) = true
    rw [hsmall]
    rfl

theorem gigabytesFigure_isManageable {bytes : Nat} (h : bytes ≤ twoTo 50) :
    (gigabytesFigure (.int bytes)).isManageable = true := by
  have hbytes : twoTo 50 < tenTo 26 := by decide
  apply isManageable_of_isProper
  apply gigabytesFigure_isProper
  exact isInRange_int (Int.natCast_nonneg _) (Int.ofNat_lt.mpr (Nat.lt_of_le_of_lt h hbytes))

/-- A reading that fails makes no figure, which is manageable. -/
theorem ofReading_isManageable {α : Type} {figureOf : α → Figure} {reading : Except Fault α}
    (h : ∀ value, reading = .ok value → (figureOf value).isManageable = true) :
    (ofReading figureOf reading).isManageable = true := by
  cases reading with
  | error fault => rfl
  | ok value => exact h value rfl

/-! ## Operations on documented readings -/

/-- Readings that no operation fails on. -/
structure IsManageable (source : Source σ) : Prop where
  total : ∀ {s value}, (source.read .totalMemory s).1 = .ok value → ∃ n :
    Nat, value = .int n ∧ n ≤ twoTo 50
  available : ∀ {s value}, (source.read .availableMemory s).1 = .ok value →
    ∃ n : Nat, value = .int n ∧ n ≤ twoTo 50
  systemLoad : ∀ {s load}, (source.read .systemLoad s).1 = .ok load → load.isTooLarge = false
  hardwareLoad : ∀ {s load}, (source.read .hardwareLoad s).1 = .ok load →
    load.isTooLarge = false
  cpuLoad : ∀ {s usage}, (source.read .cpuLoad s).1 = .ok usage → usage.isTooLarge = false

namespace IsManageable

variable {source : Source σ}

theorem memoryUsage_returns (h : IsManageable source) (s : Bool × World σ) :
    (memoryUsage source).returns s = true := by
  rw [Action.returns, (memoryUsage_settles source s).isOk_eq]
  apply ofReading_isManageable
  rintro ⟨total, available⟩ hread
  obtain ⟨htotal, t, havailable⟩ := exists_readings_of_readMemory hread
  obtain ⟨m, rfl, hm⟩ := h.total htotal
  obtain ⟨n, rfl, hn⟩ := h.available havailable
  exact usageFigure_isManageable hm hn

theorem availableMemory_returns (h : IsManageable source) (s : Bool × World σ) :
    (availableMemory source).returns s = true := by
  rw [Action.returns, (availableMemory_settles source s).isOk_eq]
  apply ofReading_isManageable
  intro bytes hread
  obtain ⟨n, rfl, hn⟩ := h.available hread
  exact gigabytesFigure_isManageable hn

theorem totalMemory_returns (h : IsManageable source) (s : Bool × World σ) :
    (totalMemory source).returns s = true := by
  rw [Action.returns, (totalMemory_settles source s).isOk_eq]
  apply ofReading_isManageable
  intro bytes hread
  obtain ⟨n, rfl, hn⟩ := h.total hread
  exact gigabytesFigure_isManageable hn

theorem loadAverage_returns (h : IsManageable source) (s : Bool × World σ) :
    (loadAverage source).returns s = true := by
  rw [Action.returns, (loadAverage_settles_figure source s).isOk_eq]
  exact isManageable_of_isProper
    (loadFigureOf_isProper (fun _ hread => h.systemLoad hread) fun _ hread => h.hardwareLoad hread)

theorem cpuUsage_returns (h : IsManageable source) (s : Bool × World σ) :
    (cpuUsage source).returns s = true := by
  rw [Action.returns, (cpuUsage_settles source s).isOk_eq]
  apply ofReading_isManageable
  intro usage hread
  rw [processorsFigure, Figure.isManageable, h.cpuLoad hread]
  rfl

/-- **No operation fails.** -/
theorem act_returns (h : IsManageable source) (operation : Operation) (s : Bool × World σ) :
    (operation.act source).returns s = true := by
  have hanswer : ∀ {α : Type} {act : MonitorAction σ α} {answer : α → Answer},
      act.returns s = true → (act >>= fun a => pure (answer a) : MonitorAction σ Answer).returns
        s = true := by
    intro α act answer hreturns
    have hbind : (act >>= fun a => pure (answer a) : MonitorAction σ Answer).returns s
        = (act.returns s && true) :=
      @Action.returns_bind _ _ _ act _ (fun _ => true) (fun _ _ => rfl) s
    rw [hbind, hreturns]
    rfl
  cases operation with
  | memoryUsage => exact hanswer (h.memoryUsage_returns s)
  | availableMemory => exact hanswer (h.availableMemory_returns s)
  | totalMemory => exact hanswer (h.totalMemory_returns s)
  | loadAverage => exact hanswer (h.loadAverage_returns s)
  | cpuUsage => exact hanswer (h.cpuUsage_returns s)
  | snapshot =>
    apply hanswer
    simp only [snapshot_returns, Action.returnInTurn, h.memoryUsage_returns,
      h.availableMemory_returns,
      h.totalMemory_returns, h.loadAverage_returns, h.cpuUsage_returns, Bool.and_self]
  | check maxLoad reserved =>
    apply hanswer
    simp only [checkResource_returns, Action.returnInTurn, h.loadAverage_returns,
      h.availableMemory_returns, Bool.and_self]

end IsManageable

end Monitor

/-! ## Documented sensors -/

namespace Sensors

variable {sensors : Sensors σ}

/-- What is read off the sensors of a system is read when they are ready. -/
theorem exists_read_of_system {metric : Metric} {s : Bool × World σ} {value : Number}
    (h : ((Source.system sensors).read metric s).1 = .ok value) :
    ∃ w, (sensors.read metric w).1 = .ok value := by
  have hread : (Source.system sensors).read metric s
      = (.ok value, ((Source.system sensors).read metric s).2) := Prod.ext h rfl
  unfold Source.read at hread
  obtain ⟨_, t, -, hread⟩ := Action.bind_eq_ok_iff.mp hread
  exact ⟨t.2, congrArg Prod.fst (Action.onSecond_eq_iff.mp hread).1⟩

/-- A sensor that fails in an expected way gives NaN. -/
theorem orNaN_eq_ok {reading : Action (World σ) Number} {what : String} {expected : List Family}
    {w : World σ} {value : Number} (h : (orNaN reading what expected w).1 = .ok value) :
    value = .nan ∨ (reading w).1 = .ok value := by
  rcases hreading : reading w with ⟨fault | given, w'⟩
  · left
    by_cases hexpected : fault.family ∈ expected
    · simp [orNaN, hreading, hexpected] at h
      exact h.symm
    · simp [orNaN, hreading, hexpected] at h
  · right
    simpa [orNaN, hreading] using h

/-- **Documented sensors give manageable readings.** -/
theorem KeepRanges.isManageable (h : sensors.KeepRanges) :
    Monitor.IsManageable (.system sensors) where
  total hread := by
    obtain ⟨w, hread⟩ := exists_read_of_system hread
    exact h.totalMemory hread
  available hread := by
    obtain ⟨w, hread⟩ := exists_read_of_system hread
    exact h.availableMemory hread
  systemLoad hread := by
    obtain ⟨w, hread⟩ := exists_read_of_system hread
    obtain ⟨given, w', hgiven, hread⟩ := Action.bind_eq_ok_iff.mp (Prod.ext hread rfl)
    cases given with
    | none => cases hread
    | some reading =>
      have houtcome : (sensors.systemLoad w.outside).1 = .ok (some reading) :=
        congrArg Prod.fst hgiven
      have hafter : (sensors.systemLoad w.outside).2 = w'.outside :=
        congrArg (fun result => result.2.outside) hgiven
      exact Number.isTooLarge_of_isUpTo
        (h.systemLoad (Prod.ext houtcome hafter) (congrArg Prod.fst hread)) (by decide)
  hardwareLoad hread := by
    obtain ⟨w, hread⟩ := exists_read_of_system hread
    rcases orNaN_eq_ok hread with rfl | hread
    · rfl
    · exact Number.isTooLarge_of_isUpTo (h.hardwareLoad hread) (by decide)
  cpuLoad hread := by
    obtain ⟨w, hread⟩ := exists_read_of_system hread
    rcases orNaN_eq_ok hread with rfl | hread
    · rfl
    · obtain ⟨percent, w', hpercent, hread⟩ := Action.bind_eq_ok_iff.mp (Prod.ext hread rfl)
      obtain ⟨d, hdiv, hsmall⟩ := Number.exists_div_hundred
          (h.cpuPercent (congrArg Prod.fst hpercent))
      rw [Number.divide, hdiv] at hread
      rw [← Except.ok.inj (congrArg Prod.fst hread)]
      exact hsmall

end Sensors

end TenantHost
