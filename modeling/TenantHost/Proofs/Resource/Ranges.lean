import TenantHost.Proofs.Double.Thresholds
import TenantHost.Proofs.Journal.Mirror
import TenantHost.Proofs.Resource.Monotone
import TenantHost.Proofs.Resource.Queries
/-!
# Ranges of a snapshot

A field of a snapshot is meant to lie in a range: not below zero and, if it is a share, not beyond
one. What is rounded is any finite figure, though, so a field is in its range just if its figure is,
but for what rounding takes away. Readings that are consistent with each other make such figures;
others need not, and then a field may even be the answer that nothing is available.
-/

namespace TenantHost

/-! ## Bounds -/

namespace Number

/-- Half a hundredth below zero: from there on an amount is rounded to less than zero. -/
def halfBelowZero : Number := .real (.ofRatio true 5 1000)

/-- One and half a hundredth: from there on an amount is rounded to more than one. -/
def halfBeyondOne : Number := .real (.ofRatio false 1005 1000)

theorem place_halfBelowZero :
    halfBelowZero.place? = some (.units (-(Double.magnitude Double.halfRank : Int))) := by
  have hlimit : Double.nearestRank (5 * twoTo 1074) 1000 < Double.rankLimit := by
    decide +kernel
  have hplace : (Double.ofRatio true 5 1000).place? = some (.units (Double.signed true
      (Double.magnitude (Double.nearestRank (5 * twoTo 1074) 1000)))) := Double.place_ofRatio hlimit
  rw [halfBelowZero, Number.place?, hplace, Double.signed_true]
  unfold Double.halfRank
  rfl

theorem place_halfBeyondOne :
    halfBeyondOne.place? = some (.units (Double.magnitude Double.overRank : Int)) := by
  have hlimit : Double.nearestRank (1005 * twoTo 1074) 1000 < Double.rankLimit := by
    decide +kernel
  have hplace : (Double.ofRatio false 1005 1000).place? = some (.units (Double.signed false
      (Double.magnitude (Double.nearestRank (1005 * twoTo 1074) 1000)))) :=
    Double.place_ofRatio hlimit
  rw [halfBeyondOne, Number.place?, hplace, Double.signed_false]
  unfold Double.overRank
  rfl

/-- Up to two a number lies below the magnitude of a rank just if its double does. -/
theorem natAbs_lt_magnitude_iff {a : Number} {n : Int} (ha : a.place? = some (.units n))
    {rank : Nat} (hrank : rank ≤ Double.twoRank) :
    n.natAbs < Double.magnitude rank ↔ Double.nearestRank n.natAbs 1 < rank := by
  cases a with
  | int k =>
    rw [(of_place_int ha).2]
    exact Double.whole_lt_magnitude_iff hrank
  | real d =>
    cases d with
    | nan => cases ha
    | infinity negative => cases negative <;> cases ha
    | finite negative rank' =>
      have hn : Double.signed negative (Double.magnitude rank') = n :=
        Double.Place.units.inj (Option.some.inj ha)
      rw [← hn, natAbs_signed, Double.nearestRank_magnitude_one,
        Double.magnitude_lt_magnitude_iff]

/-- **What is rounded below zero** lies half a hundredth below it. -/
theorem less_halfBelowZero_iff {a : Number} {n : Int} (ha : a.place? = some (.units n)) :
    halfBelowZero.less a = true ↔ 0 ≤ Double.settled n := by
  obtain ⟨-, -, -, hpos, hhalf, -⟩ := Double.threshold_values
  have hmagnitude : 0 < Double.magnitude Double.halfRank := by
    rw [← Double.magnitude_zero]
    exact Double.magnitude_lt_magnitude_iff.mpr hpos
  rw [less_of_places place_halfBelowZero ha, Double.Place.before, decide_eq_true_eq,
    Double.settled_nonneg_iff, ← natAbs_lt_magnitude_iff ha hhalf]
  omega

/-- **What is rounded beyond one** lies half a hundredth beyond it. -/
theorem less_halfBeyondOne_iff {a : Number} {n : Int} (ha : a.place? = some (.units n)) :
    a.less halfBeyondOne = true ↔ Double.settled n ≤ twoTo 1074 := by
  obtain ⟨-, -, -, -, -, hover, -⟩ := Double.threshold_values
  rw [less_of_places ha place_halfBeyondOne, Double.Place.before, decide_eq_true_eq,
    Double.settled_le_one_iff, ← natAbs_lt_magnitude_iff ha hover]
  omega

end Number

namespace Monitor

/-- What a field of a snapshot gives: an amount, or a share of a whole. -/
inductive Measure where
  | amount
  | share
  deriving DecidableEq, Repr

namespace Measure

/-- Whether an answer is in the range of a field: not below zero, and for a share not beyond one. -/
def covers (measure : Measure) (answer : Double) : Bool :=
  match measure with
  | .amount => Number.atMost (.int 0) (.real answer)
  | .share => Number.atMost (.int 0) (.real answer) && Number.atMost (.real answer) (.int 1)

/-- Whether a figure lies in the range of a field, or so little outside of it that rounding takes it
back. -/
def bounds (measure : Measure) (a : Number) : Bool :=
  match measure with
  | .amount => Number.halfBelowZero.less a
  | .share => Number.halfBelowZero.less a && a.less Number.halfBeyondOne

/-- **A figure is rounded into its range just if it lies within the bounds.** -/
theorem covers_eq_bounds (measure : Measure) {a : Number} {d : Double} {n : Int}
    (ha : a.place? = some (.units n)) (hround : a.roundHundredths? = some d) :
    measure.covers d = measure.bounds a := by
  have hd : (Number.real d).place? = some (.units (Double.settled n)) :=
    Number.place_roundHundredths ha hround
  have hlow : Number.atMost (.int 0) (.real d) = Number.halfBelowZero.less a := by
    rw [Bool.eq_iff_iff, Number.less_halfBelowZero_iff ha, Number.zero_atMost_of_units hd,
      decide_eq_true_eq]
  have hhigh : Number.atMost (.real d) (.int 1) = a.less Number.halfBeyondOne := by
    rw [Bool.eq_iff_iff, Number.less_halfBeyondOne_iff ha, Number.atMost_one_of_units hd,
      decide_eq_true_eq]
  cases measure with
  | amount => exact hlow
  | share =>
    unfold covers bounds
    rw [hlow, hhigh]

end Measure

/-! ## Fields -/

/-- What a field of a snapshot is meant to say: that nothing is available where there is no finite
figure, and otherwise an answer in its range. -/
def IsGenuine (measure : Measure) (figure : Figure) (answer : Double) : Prop :=
  match figure with
  | .ok (some a) => if a.isAmount then measure.covers answer = true else answer = unavailable
  | _ => answer = unavailable

/-- Whether a figure is none, or not finite, or lies within its bounds. -/
def Figure.isProper (measure : Measure) (figure : Figure) : Bool :=
  match figure with
  | .ok none => true
  | .ok (some a) => !a.isAmount || !a.isTooLarge && measure.bounds a
  | .error _ => false

/-- **A query answers what is meant just if its figure is proper.** -/
theorem Settles.genuine_iff {figure : Figure} {outcome : Except Fault Double}
    (h : Settles figure outcome) (measure : Measure) :
    (∃ answer, outcome = .ok answer ∧ IsGenuine measure figure answer)
      ↔ figure.isProper measure = true := by
  cases h with
  | missing => exact iff_of_true ⟨unavailable, rfl, rfl⟩ rfl
  | unbounded hamount =>
    rename_i a
    refine iff_of_true ⟨unavailable, rfl, ?_⟩ ?_
    · rw [IsGenuine, if_neg (by rw [hamount]; exact Bool.false_ne_true)]
    · rw [Figure.isProper, hamount]
      rfl
  | rounded hamount hsmall hround hfinite =>
    rename_i a d
    obtain ⟨n, hplace⟩ := Number.exists_units_of_isAmount hamount
    have hproper : Figure.isProper measure (.ok (some a)) = measure.bounds a := by
      rw [Figure.isProper, hamount, hsmall]
      rfl
    have hgenuine : ∀ answer, IsGenuine measure (.ok (some a)) answer ↔
        measure.covers answer = true := by
      intro answer
      rw [IsGenuine, if_pos hamount]
    rw [hproper, ← measure.covers_eq_bounds hplace hround]
    constructor
    · rintro ⟨answer, hanswer, hcovers⟩
      rw [← Except.ok.inj hanswer] at hcovers
      exact (hgenuine _).mp hcovers
    · intro hcovers
      exact ⟨_, rfl, (hgenuine _).mpr hcovers⟩
  | tooLarge hlarge =>
    rename_i a fault
    refine iff_of_false ?_ ?_
    · rintro ⟨answer, hanswer, -⟩
      cases hanswer
    · rw [Figure.isProper, hlarge, Number.isAmount_of_isTooLarge hlarge]
      exact Bool.false_ne_true
  | failed fault =>
    refine iff_of_false ?_ Bool.false_ne_true
    rintro ⟨answer, hanswer, -⟩
    cases hanswer

/-! ## Readings and the journal -/

section Readings

open TenantHost.Action (InStep Beside)

variable {σ : Type}

/-- Worlds that differ in their journals and calls only. -/
def SameOutside (w w' : World σ) : Prop :=
  w.outside = w'.outside

theorem ask_inStep {α : Type} (party : Action σ α) :
    InStep SameOutside (World.ask party) (World.ask party) := by
  rintro ⟨outside, journal, calls⟩ ⟨outside', journal', calls'⟩ hsame
  obtain rfl : outside = outside' := hsame
  exact ⟨rfl, rfl⟩

theorem orNaN_inStep {reading : Action (World σ) Number} (h : InStep SameOutside reading reading)
    (what : String) (expected : List Family) :
    InStep SameOutside (Sensors.orNaN reading what expected)
      (Sensors.orNaN reading what expected) := by
  unfold Sensors.orNaN
  refine h.attempt.bind fun outcome => ?_
  cases outcome with
  | ok value => exact .pure value
  | error fault =>
    by_cases hexpected : fault.family ∈ expected
    · simp only [if_pos hexpected]
      have hnote : InStep (SameOutside (σ := σ))
          (World.note .resources .debug ("psutil " ++ what ++ " unavailable: " ++ fault.summary))
          (World.note .resources .debug ("psutil " ++ what ++ " unavailable: " ++ fault.summary)) :=
        fun _ _ hsame => ⟨rfl, hsame⟩
      exact hnote.bind fun _ => .pure Number.nan
    · simp only [if_neg hexpected]
      exact .fail fault

/-- What is read off the sensors does not depend on the journal. -/
theorem sensors_read_inStep (sensors : Sensors σ) (metric : Metric) :
    InStep SameOutside (sensors.read metric) (sensors.read metric) := by
  cases metric with
  | totalMemory => exact ask_inStep _
  | availableMemory => exact ask_inStep _
  | systemLoad =>
    refine (ask_inStep sensors.systemLoad).bind fun reading => ?_
    cases reading with
    | none => exact .fail _
    | some reading => exact ask_inStep reading
  | hardwareLoad => exact orNaN_inStep (ask_inStep _) _ _
  | cpuLoad =>
    refine orNaN_inStep ((ask_inStep sensors.cpuPercent).bind fun percent => ?_) _ _
    unfold Number.divide
    cases percent.div (.real (Double.ofNat 100)) with
    | ok d => exact .pure _
    | error limit => exact .fail _

/-- **What is read does not depend on the journal.** -/
theorem read_inStep (source : Source σ) (metric : Metric) :
    InStep (Beside SameOutside) (source.read metric) (source.read metric) := by
  cases source with
  | given read => exact (ask_inStep (read metric)).onSecond
  | system sensors =>
    have hready : InStep (Beside SameOutside) sensors.ready sensors.ready := by
      unfold Sensors.ready
      refine .state fun s t hsame => ?_
      rw [hsame]
      split
      · exact .pure ()
      · exact (ask_inStep sensors.cpuPercent).onSecond.bind fun _ => .update true
    exact hready.bind fun _ => (sensors_read_inStep sensors metric).onSecond

theorem read_withJournal (source : Source σ) (metric : Metric) (s : Bool × World σ)
    (journal : List Line) : (source.read metric (withJournal s journal)).1
      = (source.read metric s).1 :=
  (read_inStep source metric (withJournal s journal) s ⟨rfl, rfl⟩).1

/-! ## Snapshots -/

/-- The figures of a snapshot. -/
structure Figures where
  memoryUsage : Figure
  availableMemory : Figure
  totalMemory : Figure
  loadAverage : Figure
  cpuUsage : Figure

/-- The figures that the readings of a snapshot make, each read where the query before it left
off. -/
def figuresOf (source : Source σ) (s : Bool × World σ) : Figures :=
  let s₁ := (memoryUsage source s).2
  let s₂ := (availableMemory source s₁).2
  let s₃ := (totalMemory source s₂).2
  let s₄ := (loadAverage source s₃).2
  { memoryUsage := ofReading usageFigure (readMemory source s).1
    availableMemory := ofReading gigabytesFigure (source.read .availableMemory s₁).1
    totalMemory := ofReading gigabytesFigure (source.read .totalMemory s₂).1
    loadAverage := loadFigureOf (source.read .systemLoad s₃).1
      (source.read .hardwareLoad (source.read .systemLoad s₃).2).1
    cpuUsage := ofReading processorsFigure (source.read .cpuLoad s₄).1 }

/-- Every field of a snapshot says what it is meant to. -/
structure Figures.Backs (figures : Figures) (snapshot : Snapshot) : Prop where
  memoryUsage : IsGenuine .share figures.memoryUsage snapshot.memoryUsage
  availableMemory : IsGenuine .amount figures.availableMemory snapshot.availableMemory
  totalMemory : IsGenuine .amount figures.totalMemory snapshot.totalMemory
  loadAverage : IsGenuine .amount figures.loadAverage snapshot.loadAverage
  cpuUsage : IsGenuine .share figures.cpuUsage snapshot.cpuUsage

/-- Every figure of a snapshot is proper. -/
structure Figures.AreProper (figures : Figures) : Prop where
  memoryUsage : figures.memoryUsage.isProper .share = true
  availableMemory : figures.availableMemory.isProper .amount = true
  totalMemory : figures.totalMemory.isProper .amount = true
  loadAverage : figures.loadAverage.isProper .amount = true
  cpuUsage : figures.cpuUsage.isProper .share = true

theorem loadAverage_settles_figure (source : Source σ) (s : Bool × World σ) :
    Settles (loadFigureOf (source.read .systemLoad s).1
        (source.read .hardwareLoad (source.read .systemLoad s).2).1)
      (loadAverage source s).1 := by
  obtain ⟨journal, hsettles⟩ := loadAverage_settles source s
  rw [read_withJournal] at hsettles
  exact hsettles

/-- A snapshot is made of the answers of its queries, each where the one before it left off. -/
theorem snapshot_eq_ok_iff {source : Source σ} {s s' : Bool × World σ} {taken : Snapshot} :
    snapshot source s = (.ok taken, s') ↔
      ∃ s₁ s₂ s₃ s₄, memoryUsage source s = (.ok taken.memoryUsage, s₁) ∧
        availableMemory source s₁ = (.ok taken.availableMemory, s₂) ∧
        totalMemory source s₂ = (.ok taken.totalMemory, s₃) ∧
        loadAverage source s₃ = (.ok taken.loadAverage, s₄) ∧
        cpuUsage source s₄ = (.ok taken.cpuUsage, s') := by
  unfold snapshot
  constructor
  · intro h
    obtain ⟨used, s₁, hused, h⟩ := Action.bind_eq_ok_iff.mp h
    obtain ⟨available, s₂, havailable, h⟩ := Action.bind_eq_ok_iff.mp h
    obtain ⟨total, s₃, htotal, h⟩ := Action.bind_eq_ok_iff.mp h
    obtain ⟨load, s₄, hload, h⟩ := Action.bind_eq_ok_iff.mp h
    obtain ⟨cpu, s₅, hcpu, h⟩ := Action.bind_eq_ok_iff.mp h
    obtain rfl : (⟨used, available, total, load, cpu⟩ : Snapshot) = taken :=
      Except.ok.inj (congrArg Prod.fst h)
    obtain rfl : s₅ = s' := congrArg Prod.snd h
    exact ⟨s₁, s₂, s₃, s₄, hused, havailable, htotal, hload, hcpu⟩
  · rintro ⟨s₁, s₂, s₃, s₄, hused, havailable, htotal, hload, hcpu⟩
    simp [hused, havailable, htotal, hload, hcpu]

/-- **A snapshot says what it is meant to just if all of its figures are proper.** -/
theorem exists_backed_snapshot_iff (source : Source σ) (s : Bool × World σ) :
    (∃ taken s', snapshot source s = (.ok taken, s') ∧ (figuresOf source s).Backs taken)
      ↔ (figuresOf source s).AreProper := by
  have hused := (memoryUsage_settles source s).genuine_iff .share
  have havailable := (availableMemory_settles source (memoryUsage source s).2).genuine_iff .amount
  have htotal := (totalMemory_settles source
    (availableMemory source (memoryUsage source s).2).2).genuine_iff .amount
  have hload := (loadAverage_settles_figure source (totalMemory source
    (availableMemory source (memoryUsage source s).2).2).2).genuine_iff .amount
  have hcpu := (cpuUsage_settles source (loadAverage source (totalMemory source
    (availableMemory source (memoryUsage source s).2).2).2).2).genuine_iff .share
  constructor
  · rintro ⟨taken, s', h, hbacks⟩
    obtain ⟨s₁, s₂, s₃, s₄, h₁, h₂, h₃, h₄, h₅⟩ := snapshot_eq_ok_iff.mp h
    obtain rfl : (memoryUsage source s).2 = s₁ := congrArg Prod.snd h₁
    obtain rfl : (availableMemory source (memoryUsage source s).2).2 = s₂ :=
      congrArg Prod.snd h₂
    obtain rfl : _ = s₃ := congrArg Prod.snd h₃
    obtain rfl : _ = s₄ := congrArg Prod.snd h₄
    constructor
    · exact hused.mp ⟨_, congrArg Prod.fst h₁, hbacks.memoryUsage⟩
    · exact havailable.mp ⟨_, congrArg Prod.fst h₂, hbacks.availableMemory⟩
    · exact htotal.mp ⟨_, congrArg Prod.fst h₃, hbacks.totalMemory⟩
    · exact hload.mp ⟨_, congrArg Prod.fst h₄, hbacks.loadAverage⟩
    · exact hcpu.mp ⟨_, congrArg Prod.fst h₅, hbacks.cpuUsage⟩
  · rintro ⟨hused', havailable', htotal', hload', hcpu'⟩
    obtain ⟨used, hused, husedBacked⟩ := hused.mpr hused'
    obtain ⟨available, havailable, havailableBacked⟩ := havailable.mpr havailable'
    obtain ⟨total, htotal, htotalBacked⟩ := htotal.mpr htotal'
    obtain ⟨load, hload, hloadBacked⟩ := hload.mpr hload'
    obtain ⟨cpu, hcpu, hcpuBacked⟩ := hcpu.mpr hcpu'
    refine ⟨⟨used, available, total, load, cpu⟩, _, snapshot_eq_ok_iff.mpr ⟨_, _, _, _,
      Prod.ext hused rfl, Prod.ext havailable rfl, Prod.ext htotal rfl, Prod.ext hload rfl,
      Prod.ext hcpu rfl⟩, ?_⟩
    exact ⟨husedBacked, havailableBacked, htotalBacked, hloadBacked, hcpuBacked⟩

end Readings

end Monitor

end TenantHost
