import TenantHost.Proofs.Resource.Admission
import TenantHost.Proofs.Resource.Memory
/-!
# Admission is monotone

A reading is rounded before it is compared with a threshold, and rounding keeps the order, however
the reading was given. So a host with less load and more available memory takes on what a host with
more load and less memory would take on, and looser thresholds let in what stricter ones do.
-/

namespace TenantHost.Monitor

variable {σ τ : Type}

/-! ## Acceptance -/

/-- Whether a check of the resources returns and lets work in. -/
def accepts (source : Source σ) (maxLoad reserved : Number) (s : Bool × World σ) : Bool :=
  match (checkResource source maxLoad reserved s).1 with
  | .ok answer => answer
  | .error _ => false

theorem admits_eq_true_iff {load available : Double} {maxLoad reserved : Number} :
    admits load available maxLoad reserved = true
      ↔ maxLoad.less (.real load) = false ∧ Number.less (.real available) reserved = false := by
  unfold admits
  rw [Bool.not_eq_true', Bool.or_eq_false_iff]

/-- **A check accepts just when both of its queries answer and the answers leave room.** A refusal
may still fail, as a threshold may have too many digits to be shown. -/
theorem accepts_eq_true_iff {source : Source σ} {maxLoad reserved : Number}
    {s : Bool × World σ} :
    accepts source maxLoad reserved s = true
      ↔ ∃ load available t, loadAverage source s = (.ok load, t) ∧
          (availableMemory source t).1 = .ok available ∧
          admits load available maxLoad reserved = true := by
  have hanswer : accepts source maxLoad reserved s = true
      ↔ (checkResource source maxLoad reserved s).1 = .ok true := by
    unfold accepts
    rcases (checkResource source maxLoad reserved s).1 with fault | answer
    · exact iff_of_false Bool.false_ne_true (fun h => by cases h)
    · exact ⟨fun h => congrArg Except.ok h, Except.ok.inj⟩
  rw [hanswer]
  constructor
  · intro h
    have hcheck : checkResource source maxLoad reserved s
        = (.ok true, (checkResource source maxLoad reserved s).2) := Prod.ext h rfl
    unfold checkResource at hcheck
    obtain ⟨load, t, hload, hcheck⟩ := Action.bind_eq_ok_iff.mp hcheck
    obtain ⟨available, u, havailable, hcheck⟩ := Action.bind_eq_ok_iff.mp hcheck
    refine ⟨load, available, t, hload, by rw [havailable], ?_⟩
    cases hadmits : admits load available maxLoad reserved with
    | true => rfl
    | false =>
      -- what is done after a refusal does not end with an acceptance
      rw [hadmits, if_neg Bool.false_ne_true] at hcheck
      obtain ⟨maxText, v, -, hcheck⟩ := Action.bind_eq_ok_iff.mp hcheck
      obtain ⟨reservedText, v, -, hcheck⟩ := Action.bind_eq_ok_iff.mp hcheck
      obtain ⟨written, v, -, hcheck⟩ := Action.bind_eq_ok_iff.mp hcheck
      exact absurd (Except.ok.inj (congrArg Prod.fst hcheck)) Bool.false_ne_true
  · rintro ⟨load, available, t, hload, havailable, hadmits⟩
    obtain ⟨u, hread⟩ : ∃ u, availableMemory source t = (.ok available, u) :=
      ⟨_, Prod.ext havailable rfl⟩
    simp [checkResource, hload, hread, hadmits]

/-- What leaves room under some thresholds does so with less load and more memory. -/
theorem admits_of_readings {load available load' available' : Double} {maxLoad reserved : Number}
    (h : admits load available maxLoad reserved = true)
    (hload : Number.atMost (.real load') (.real load) = true)
    (havailable : Number.atMost (.real available) (.real available') = true) :
    admits load' available' maxLoad reserved = true := by
  obtain ⟨hnotHigh, hnotScarce⟩ := admits_eq_true_iff.mp h
  rw [admits_eq_true_iff]
  constructor
  · exact Number.not_less_of_atMost_right hnotHigh hload
  · exact Number.not_less_of_atMost_left hnotScarce havailable

/-- What leaves room under some thresholds does so under looser ones. -/
theorem admits_of_thresholds {load available : Double}
    {maxLoad reserved maxLoad' reserved' : Number}
    (h : admits load available maxLoad reserved = true) (hmaxLoad : maxLoad.atMost maxLoad' = true)
    (hreserved : reserved'.atMost reserved = true) :
    admits load available maxLoad' reserved' = true := by
  obtain ⟨hnotHigh, hnotScarce⟩ := admits_eq_true_iff.mp h
  rw [admits_eq_true_iff]
  constructor
  · exact Number.not_less_of_atMost_left hnotHigh hmaxLoad
  · exact Number.not_less_of_atMost_right hnotScarce hreserved

/-! ## Readings in range -/

/-- Whether a number lies from zero on and below `10 ^ 26`. -/
def isInRange (a : Number) : Bool :=
  Number.atMost (.int 0) a && a.less (.int (tenTo 26))

/-- A bound for an amount that is not negative bounds its magnitude. -/
theorem natAbs_lt_of_units {n : Int} {bound unit : Nat} (hnonneg : 0 ≤ n)
    (h : n < (bound : Int) * (unit : Int)) : n.natAbs < bound * unit := by
  have hcast : (n.natAbs : Int) < ((bound * unit : Nat) : Int) := by
    rw [Int.natAbs_of_nonneg hnonneg, Int.natCast_mul]
    exact h
  exact Int.ofNat_lt.mp hcast

theorem exists_units_of_isInRange {a : Number} (h : isInRange a = true) :
    ∃ n, a.place? = some (.units n) ∧ 0 ≤ n ∧ n.natAbs < Double.refusedFrom := by
  obtain ⟨hleast, hmost⟩ := Bool.and_eq_true_iff.mp h
  obtain ⟨zero, place, hzero, hplace, hnot⟩ := Number.exists_places_of_atMost hleast
  obtain ⟨place', bound, hplace', hbound, hbefore⟩ := Number.exists_places_of_less hmost
  obtain rfl : place = place' := Option.some.inj (hplace.symm.trans hplace')
  rw [Number.place?_int] at hzero hbound
  unfold Double.refusedFrom
  generalize twoTo 1074 = unit at hzero hbound ⊢
  generalize tenTo 26 = limit at hbound ⊢
  rw [← Option.some.inj hzero] at hnot
  rw [← Option.some.inj hbound] at hbefore
  obtain ⟨n, rfl, hnonneg, hlt⟩ := Double.Place.exists_units_of_between hnot hbefore
  rw [Int.zero_mul] at hnonneg
  exact ⟨n, hplace, hnonneg, natAbs_lt_of_units hnonneg hlt⟩

theorem isInRange_int {n : Int} (hnonneg : 0 ≤ n) (h : n < tenTo 26) :
    isInRange (.int n) = true := by
  have hunit := twoTo_pos 1074
  have hplace := Number.place?_int n
  have hbound := Number.place?_int (tenTo 26)
  rw [isInRange, Number.zero_atMost_of_units hplace, Number.less_of_places hplace hbound,
    Double.Place.before]
  generalize twoTo 1074 = unit at hunit ⊢
  generalize tenTo 26 = bound at h ⊢
  rw [Bool.and_eq_true_iff, decide_eq_true_eq, decide_eq_true_eq]
  have hunit' : (0 : Int) < unit := Int.natCast_pos.mpr hunit
  constructor
  · exact Int.mul_nonneg hnonneg (Int.natCast_nonneg unit)
  · exact Int.mul_lt_mul_of_pos_right h hunit'

/-- A load in range is one, and can be rounded. -/
theorem exists_rounded_of_isInRange {load : Number} (h : isInRange load = true) :
    isLoad load = .ok true ∧ ∃ d, load.roundHundredths? = some d := by
  obtain ⟨n, hplace, -, hsmall⟩ := exists_units_of_isInRange h
  have hamount := Number.isAmount_of_units hplace
  have hmanageable := Number.isTooLarge_of_lt hplace hsmall
  refine ⟨?_, Number.exists_roundHundredths hamount hmanageable⟩
  rw [isLoad, finite_eq, Number.isUnconvertible_of_not_isTooLarge hmanageable, hamount,
    (Bool.and_eq_true_iff.mp h).1]
  rfl

/-- A load in range is answered as it is, rounded. -/
theorem exists_loadAverage {source : Source σ} {s t : Bool × World σ} {load : Number}
    (hread : source.read .systemLoad s = (.ok load, t)) (hrange : isInRange load = true) :
    ∃ d, loadAverage source s = (.ok d, t) ∧ load.roundHundredths? = some d := by
  obtain ⟨hload, d, hd⟩ := exists_rounded_of_isInRange hrange
  have hrounded : rounded load = .ok d := by
    rw [rounded, hd]
  have hsystem : systemLoad source s = (.ok (some d), t) := by
    simp [systemLoad, hread, hload, hrounded]
  exact ⟨d, by simp [loadAverage, hsystem], hd⟩

/-- A number of bytes in range is answered in gigabytes. -/
theorem exists_availableMemory {source : Source σ} {s : Bool × World σ} {bytes : Number}
    (hread : (source.read .availableMemory s).1 = .ok bytes) (hrange : isInRange bytes = true) :
    ∃ d n, (availableMemory source s).1 = .ok d ∧ bytes.place? = some (.units n) ∧
      (Number.real d).place? = some (.units (Double.settled (Double.gigabytes n))) := by
  obtain ⟨n, hplace, -, hsmall⟩ := exists_units_of_isInRange hrange
  obtain ⟨d, hd, hrounded⟩ := exists_inGigabytes hplace hsmall
  have hsplit : source.read .availableMemory s
      = (.ok bytes, (source.read .availableMemory s).2) := Prod.ext hread rfl
  refine ⟨d, n, ?_, hplace, hrounded⟩
  rw [availableMemory, orUnavailable_ok hsplit, hd]
  rfl

/-! ## Order -/

/-- **More memory is not answered as less.** -/
theorem availableMemory_mono {lean : Source σ} {rich : Source τ} {s : Bool × World σ}
    {t : Bool × World τ} {few many : Number} (hlean : (lean.read .availableMemory s).1 = .ok few)
    (hrich : (rich.read .availableMemory t).1 = .ok many) (hfew : isInRange few = true)
    (hmany : isInRange many = true) (h : few.atMost many = true) :
    ∃ d e, (availableMemory lean s).1 = .ok d ∧ (availableMemory rich t).1 = .ok e ∧
      Number.atMost (.real d) (.real e) = true := by
  obtain ⟨d, m, hd, hm, hdplace⟩ := exists_availableMemory hlean hfew
  obtain ⟨e, n, he, hn, heplace⟩ := exists_availableMemory hrich hmany
  have hmn : m ≤ n := by
    rw [Number.atMost_of_units hm hn] at h
    exact of_decide_eq_true h
  refine ⟨d, e, hd, he, ?_⟩
  rw [Number.atMost_of_units hdplace heplace]
  exact decide_eq_true (Double.settled_mono (Double.gigabytes_mono hmn))

/-- **A lower load is not answered as a higher one.** -/
theorem loadAverage_mono {busy : Source σ} {idle : Source τ} {s s' : Bool × World σ}
    {t t' : Bool × World τ} {high low : Number} (hbusy : busy.read .systemLoad s = (.ok high, s'))
    (hidle : idle.read .systemLoad t = (.ok low, t')) (hhigh : isInRange high = true)
    (hlow : isInRange low = true) (h : low.atMost high = true) :
    ∃ d e, loadAverage busy s = (.ok d, s') ∧ loadAverage idle t = (.ok e, t') ∧
      Number.atMost (.real e) (.real d) = true := by
  obtain ⟨d, hd, hdround⟩ := exists_loadAverage hbusy hhigh
  obtain ⟨e, he, heround⟩ := exists_loadAverage hidle hlow
  have hamount : ∀ {a : Number}, isInRange a = true → a.isAmount = true := by
    intro a ha
    obtain ⟨n, hplace, -, -⟩ := exists_units_of_isInRange ha
    exact Number.isAmount_of_units hplace
  refine ⟨d, e, hd, he, ?_⟩
  exact Number.roundHundredths_mono (hamount hlow) (hamount hhigh) h heround hdround

/-- That a source gives a check its load, and then the bytes that are available. -/
def Gives (source : Source σ) (s : Bool × World σ) (load : Number) (bytes : Int) : Prop :=
  ∃ t, source.read .systemLoad s = (.ok load, t) ∧
    (source.read .availableMemory t).1 = .ok (.int bytes)

/-- **Less load and more memory, or looser thresholds, never turn an acceptance into a refusal.** -/
theorem accepts_mono {busy : Source σ} {idle : Source τ} {s : Bool × World σ}
    {t : Bool × World τ} {high low : Number} {few many : Int} (hbusy : Gives busy s high few)
    (hidle : Gives idle t low many)
    (hleast : Number.atMost (.int 0) low = true) (hload : low.atMost high = true)
    (hmost : high.less (.int (tenTo 26)) = true) (hnonneg : 0 ≤ few) (hbytes : few ≤ many)
    (hfew : many < tenTo 26) (maxLoad reserved : Number) :
    (accepts busy maxLoad reserved s = true → accepts idle maxLoad reserved t = true) ∧
      ∀ maxLoad' reserved', maxLoad.atMost maxLoad' = true →
        reserved'.atMost reserved = true →
        accepts busy maxLoad reserved s = true → accepts busy maxLoad' reserved' s = true := by
  constructor
  · intro h
    obtain ⟨load, available, u, hbusyLoad, hbusyMemory, hadmits⟩ := accepts_eq_true_iff.mp h
    obtain ⟨s', hhigh, hfewRead⟩ := hbusy
    obtain ⟨t', hlow, hmanyRead⟩ := hidle
    have hhighRange : isInRange high = true := by
      rw [isInRange, Number.atMost_trans hleast hload, hmost]
      rfl
    have hlowRange : isInRange low = true := by
      rw [isInRange, hleast, Number.less_of_atMost_of_less hload hmost]
      rfl
    have hfewRange : isInRange (.int few) = true :=
      isInRange_int hnonneg (Int.lt_of_le_of_lt hbytes hfew)
    have hmanyRange : isInRange (.int many) = true :=
      isInRange_int (Int.le_trans hnonneg hbytes) hfew
    -- what the accepted check has read is what the queries answer, so the other check is held
    -- against it
    obtain ⟨d, e, hd, he, hloads⟩ := loadAverage_mono hhigh hlow hhighRange hlowRange hload
    obtain ⟨rfl, rfl⟩ : d = load ∧ s' = u := by
      have hsame := hd.symm.trans hbusyLoad
      exact ⟨Except.ok.inj (congrArg Prod.fst hsame), congrArg Prod.snd hsame⟩
    obtain ⟨few', many', hfew', hmany', hmemory⟩ :=
      availableMemory_mono hfewRead hmanyRead hfewRange hmanyRange (Number.atMost_int hbytes)
    obtain rfl : few' = available := Except.ok.inj (hfew'.symm.trans hbusyMemory)
    rw [accepts_eq_true_iff]
    exact ⟨e, many', t', he, hmany', admits_of_readings hadmits hloads hmemory⟩
  · intro maxLoad' reserved' hmaxLoad hreserved h
    obtain ⟨load, available, u, hbusyLoad, hbusyMemory, hadmits⟩ := accepts_eq_true_iff.mp h
    rw [accepts_eq_true_iff]
    exact ⟨load, available, u, hbusyLoad, hbusyMemory,
      admits_of_thresholds hadmits hmaxLoad hreserved⟩

/-- A host with a load and a number of available bytes. -/
def steady (load : Number) (bytes : Int) : Source Unit :=
  .given fun metric =>
    match metric with
    | .systemLoad => pure load
    | .availableMemory => pure (.int bytes)
    | _ => .fail .noLoadAverage

theorem steady_gives (load : Number) (bytes : Int) :
    Gives (steady load bytes) (false, World.start ()) load bytes :=
  ⟨(false, World.start ()), rfl, rfl⟩

/-- A host with a load of three and three gibibytes left lets work in under a load of four and two
gigabytes, so one with a load of two and five gibibytes does, and so it does under a load of five
and one gigabyte. -/
theorem accepts_of_calmer :
    accepts (steady (.int 2) (5 * 1073741824)) (.int 4) (.int 2) (false, World.start ()) = true ∧
      accepts (steady (.int 3) (3 * 1073741824)) (.int 5) (.int 1) (false, World.start ())
        = true := by
  have hbusy : accepts (steady (.int 3) (3 * 1073741824)) (.int 4) (.int 2) (false, World.start ())
      = true := by
    decide +kernel
  have hmono := accepts_mono (steady_gives (.int 3) (3 * 1073741824))
    (steady_gives (.int 2) (5 * 1073741824)) (by decide +kernel) (by decide +kernel)
    (by decide +kernel) (by decide) (by decide) (by decide) (.int 4) (.int 2)
  obtain ⟨hcalmer, hlooser⟩ := hmono
  exact ⟨hcalmer hbusy, hlooser (.int 5) (.int 1) (by decide +kernel) (by decide +kernel) hbusy⟩

end TenantHost.Monitor
