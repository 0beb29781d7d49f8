import TenantHost.Proofs.Double.Thresholds
import TenantHost.Proofs.Resource.Monotone
/-!
# The load and its two sources

The load is that of the system as long as the system has one that can be answered. If not, one line
says why, and the hardware is asked instead, once. So the answer that nothing is available means
that neither of them had a load.
-/

namespace TenantHost.Monitor

variable {σ : Type}

/-! ## Usable loads -/

/-- Whether a reading is a load that can be answered. -/
def isUsable : Except Fault Number → Bool
  | .ok load => isInRange load
  | .error _ => false

theorem isInRange_of_units {a : Number} {n : Int} (ha : a.place? = some (.units n))
    (hnonneg : 0 ≤ n) (hsmall : a.isTooLarge = false) : isInRange a = true := by
  rw [Number.isTooLarge_of_units ha, decide_eq_false_iff_not, Nat.not_le] at hsmall
  have hbound := Number.place?_int (tenTo 26)
  unfold Double.refusedFrom at hsmall
  rw [isInRange, Number.zero_atMost_of_units ha, Number.less_of_places ha hbound,
    Double.Place.before]
  generalize twoTo 1074 = unit at hsmall ⊢
  generalize tenTo 26 = limit at hsmall ⊢
  rw [Bool.and_eq_true_iff, decide_eq_true_eq, decide_eq_true_eq]
  refine ⟨hnonneg, ?_⟩
  calc n = (n.natAbs : Int) := (Int.natAbs_of_nonneg hnonneg).symm
    _ < ((limit * unit : Nat) : Int) := Int.ofNat_lt.mpr hsmall
    _ = (limit : Int) * unit := Int.natCast_mul limit unit

/-- What is no load in range and yet not too large is no load at all. -/
theorem isLoad_of_not_isInRange {load : Number} (hrange : isInRange load = false)
    (hsmall : load.isTooLarge = false) : isLoad load = .ok false := by
  have hload : isLoad load = .ok (load.isAmount && Number.atMost (.int 0) load) := by
    rw [isLoad, finite_eq, Number.isUnconvertible_of_not_isTooLarge hsmall]
    rfl
  rw [hload]
  cases hvalid : load.isAmount && Number.atMost (.int 0) load with
  | false => rfl
  | true =>
    obtain ⟨hamount, hleast⟩ := Bool.and_eq_true_iff.mp hvalid
    obtain ⟨n, hplace⟩ := Number.exists_units_of_isAmount hamount
    rw [Number.zero_atMost_of_units hplace, decide_eq_true_eq] at hleast
    rw [isInRange_of_units hplace hleast hsmall] at hrange
    exact absurd hrange Bool.false_ne_true.symm

/-- A load that is not in range is too large to be rounded. -/
theorem rounded_of_not_isInRange {load : Number} (hload : isLoad load = .ok true)
    (hrange : isInRange load = false) : rounded load = .error .roundingRefused := by
  have hamount := isAmount_of_isLoad hload
  have hlarge : load.isTooLarge = true := by
    cases hsmall : load.isTooLarge with
    | true => rfl
    | false =>
      rw [isLoad_of_not_isInRange hrange hsmall] at hload
      exact absurd (Except.ok.inj hload) Bool.false_ne_true
  have hnone : load.roundHundredths? = none := by
    rw [← Option.not_isSome_iff_eq_none, Number.roundHundredths?_isSome hamount, hlarge]
    exact Bool.false_ne_true
  rw [rounded, hnone]

theorem conversionLimit_le_digits : Double.conversionLimit ≤ tenTo Number.digitLimit := by
  unfold Double.conversionLimit
  calc twoTo 1024 - twoTo 970 ≤ twoTo 1024 := Nat.sub_le _ _
    _ ≤ tenTo 1024 := twoTo_le_tenTo _
    _ ≤ tenTo Number.digitLimit := tenTo_mono (by decide)

/-- A number that can be asked whether it is finite has few enough digits to be shown. -/
theorem isShowable_of_isLoad {a : Number} {answer : Bool} (h : isLoad a = .ok answer) :
    a.isShowable = true := by
  cases a with
  | int n =>
    cases hlarge : (Number.int n).isUnconvertible with
    | true =>
      rw [isLoad, finite_eq, hlarge] at h
      cases h
    | false =>
      have hsmall : n.natAbs < Double.conversionLimit := Nat.not_le.mp (of_decide_eq_false hlarge)
      rw [Number.isShowable, Number.isShowableInt, decide_eq_true_eq]
      exact Nat.lt_of_lt_of_le hsmall conversionLimit_le_digits
  | real d => rfl

/-! ## The load of the system -/

/-- The line that says why the load of the system is passed over: the reading failed, it was no
load, or it was too large to be rounded. -/
def passedOver (system : Except Fault Number) : Line :=
  let failed (fault : Fault) : String :=
    "Failed to read OS load average (" ++ fault.summary ++ "), trying hardware load average"
  let text :=
    match system with
    | .error fault => failed fault
    | .ok load =>
      match isLoad load with
      | .error fault => failed fault
      | .ok true => failed .roundingRefused
      | .ok false => "OS load average reported as " ++ load.text ++ ", trying hardware load average"
  ⟨.resources, .warning, text, none⟩

/-- A state with one more line in its journal. -/
def withLine (s : Bool × World σ) (line : Line) : Bool × World σ :=
  withJournal s (s.2.journal ++ [line])

/-- **A load of the system that cannot be answered is passed over**: one line is written, and all
else is left to the hardware. -/
theorem loadAverage_of_not_isUsable {source : Source σ} {s t : Bool × World σ}
    {system : Except Fault Number} (hread : source.read .systemLoad s = (system, t))
    (h : isUsable system = false) :
    loadAverage source s = hardwareLoad source (withLine t (passedOver system)) := by
  cases system with
  | error fault =>
    have hsystem : systemLoad source s = (.error fault, t) := by
      simp [systemLoad, hread]
    simp [loadAverage, hsystem, passedOver, withLine, withJournal]
  | ok load =>
    cases hload : isLoad load with
    | error fault =>
      have hsystem : systemLoad source s = (.error fault, t) := by
        simp [systemLoad, hread, hload]
      simp [loadAverage, hsystem, passedOver, hload, withLine, withJournal]
    | ok valid =>
      cases valid with
      | true =>
        have hsystem : systemLoad source s = (.error .roundingRefused, t) := by
          simp [systemLoad, hread, hload, rounded_of_not_isInRange hload h]
        simp [loadAverage, hsystem, passedOver, hload, withLine, withJournal]
      | false =>
        have hshown : shown load = .ok load.text := by
          rw [shown, if_pos (isShowable_of_isLoad hload)]
        have hsystem : systemLoad source s = (.ok none, withLine t (passedOver (.ok load))) := by
          simp [systemLoad, hread, hload, hshown, passedOver, withLine, withJournal]
        simp [loadAverage, hsystem]

/-! ## The load of the hardware -/

/-- The lines about the reading of the hardware: there is one if it failed. -/
def hardwareLines : Except Fault Number → List Line
  | .ok _ => []
  | .error fault => [fault.line "reading hardware load average" .warning .resources none]

/-- What the hardware is asked for is read once and answered, if it is a load. -/
theorem hardwareLoad_of_isUsable {source : Source σ} {s t : Bool × World σ} {load : Number}
    (hread : source.read .hardwareLoad s = (.ok load, t)) (h : isInRange load = true) :
    ∃ d, hardwareLoad source s = (.ok d, t) ∧ load.roundHundredths? = some d := by
  obtain ⟨hload, d, hd⟩ := exists_rounded_of_isInRange h
  have hrounded : rounded load = .ok d := by
    rw [rounded, hd]
  refine ⟨d, ?_, hd⟩
  rw [hardwareLoad, orUnavailable_ok hread, hload, hrounded]
  rfl

theorem hardwareLoad_of_not_isUsable {source : Source σ} {s t : Bool × World σ}
    {hardware : Except Fault Number} (hread : source.read .hardwareLoad s = (hardware, t))
    (h : isUsable hardware = false)
    (hsmall : ∀ load, hardware = .ok load → load.isTooLarge = false) :
    hardwareLoad source s
      = (.ok unavailable, withJournal t (t.2.journal ++ hardwareLines hardware)) := by
  cases hardware with
  | error fault =>
    rw [hardwareLoad, orUnavailable, Action.bind_ok (Action.attempt_of hread)]
    rfl
  | ok load =>
    rw [hardwareLoad, orUnavailable_ok hread, isLoad_of_not_isInRange h (hsmall load rfl),
      hardwareLines,
      List.append_nil]
    rfl

/-! ## The load -/

/-- A load that is answered is not negative. -/
theorem nonneg_of_rounded {load : Number} {d : Double} (h : isInRange load = true)
    (hd : load.roundHundredths? = some d) : Number.atMost (.int 0) (.real d) = true := by
  obtain ⟨n, hplace, hnonneg, -⟩ := exists_units_of_isInRange h
  have hrounded : (Number.real d).place? = some (.units (Double.settled n)) :=
    Number.place_roundHundredths hplace hd
  rw [Number.zero_atMost_of_units hrounded, decide_eq_true_eq]
  exact Double.settled_nonneg_iff.mpr (.inl hnonneg)

theorem unavailable_negative : Number.atMost (.int 0) (.real unavailable) = false := by
  decide +kernel

/-- Sensors that keep a list of what is read off them. -/
def recording (read : Metric → Action σ Number) (metric : Metric) :
    Action (σ × List Metric) Number :=
  fun s => ((read metric s.1).1, ((read metric s.1).2, s.2 ++ [metric]))

theorem read_recording {read : Metric → Action σ Number} {metric : Metric} {o o' : σ}
    {outcome : Except Fault Number} (h : read metric o = (outcome, o')) (ready : Bool)
    (asked : List Metric) (journal : List Line) (calls : List (List String)) :
    (Source.given (recording read)).read metric (ready, ⟨(o, asked), journal, calls⟩)
      = (outcome, (ready, ⟨(o', asked ++ [metric]), journal, calls⟩)) := by
  have hrecording : recording read metric (o, asked) = (outcome, (o', asked ++ [metric])) := by
    rw [recording, h]
  rw [Source.read, Action.onSecond_of (World.ask_of hrecording)]

/-- How a query of the load ends, by the two readings: what it answers, what it has read, and the
lines it has written. -/
inductive LoadEnds (system hardware : Except Fault Number) :
    Double → List Metric → List Line → Prop
  | ofSystem {load : Number} {d : Double} : system = .ok load → isInRange load = true →
      load.roundHundredths? = some d → LoadEnds system hardware d [.systemLoad] []
  | ofHardware {load : Number} {d : Double} : isUsable system = false → hardware = .ok load →
      isInRange load = true → load.roundHundredths? = some d →
      LoadEnds system hardware d [.systemLoad, .hardwareLoad] [passedOver system]
  | ofNeither : isUsable system = false → isUsable hardware = false →
      LoadEnds system hardware unavailable [.systemLoad, .hardwareLoad]
        (passedOver system :: hardwareLines hardware)

/-- A query of the load ends with nothing just if neither source has a load, and with no negative
load otherwise. -/
theorem LoadEnds.answer {system hardware : Except Fault Number} {answer : Double}
    {asked : List Metric} {lines : List Line} (h : LoadEnds system hardware answer asked lines) :
    (answer = unavailable ↔ isUsable system = false ∧ isUsable hardware = false) ∧
      (answer ≠ unavailable → Number.atMost (.int 0) (.real answer) = true) := by
  have hloaded : Number.atMost (.int 0) (.real answer) = true →
      (isUsable system = true ∨ isUsable hardware = true) →
      (answer = unavailable ↔ isUsable system = false ∧ isUsable hardware = false) ∧
        (answer ≠ unavailable → Number.atMost (.int 0) (.real answer) = true) := by
    intro hnonneg husable
    refine ⟨iff_of_false ?_ ?_, fun _ => hnonneg⟩
    · intro hanswer
      rw [hanswer, unavailable_negative] at hnonneg
      exact Bool.false_ne_true hnonneg
    · rintro ⟨hsystem, hhardware⟩
      rw [hsystem, hhardware] at husable
      exact husable.elim Bool.false_ne_true Bool.false_ne_true
  cases h with
  | ofSystem hsystem hrange hround =>
    exact hloaded (nonneg_of_rounded hrange hround) (.inl (by rw [hsystem]; exact hrange))
  | ofHardware hsystem hhardware hrange hround =>
    exact hloaded (nonneg_of_rounded hrange hround) (.inr (by rw [hhardware]; exact hrange))
  | ofNeither hsystem hhardware =>
    exact ⟨iff_of_true rfl ⟨hsystem, hhardware⟩, fun hne => absurd rfl hne⟩

/-- **The load is that of the system, or else that of the hardware, or there is none.** If the
system has a load, nothing else is asked and nothing is written; if not, one line says so and the
hardware is asked once. Nothing is available just if neither has a load, and every other answer is
at least zero. -/
theorem loadAverage_ends {read : Metric → Action σ Number} {o o₁ o₂ : σ}
    {system hardware : Except Fault Number} (hsystem : read .systemLoad o = (system, o₁))
    (hhardware : read .hardwareLoad o₁ = (hardware, o₂))
    (hsmall : ∀ load, hardware = .ok load → load.isTooLarge = false) (ready : Bool)
    (journal : List Line) (calls : List (List String)) :
    ∃ answer asked lines o', loadAverage (.given (recording read)) (ready,
      ⟨(o, []), journal, calls⟩)
        = (.ok answer, (ready, ⟨(o', asked), journal ++ lines, calls⟩)) ∧
      LoadEnds system hardware answer asked lines ∧
      (answer = unavailable ↔ isUsable system = false ∧ isUsable hardware = false) ∧
      (answer ≠ unavailable → Number.atMost (.int 0) (.real answer) = true) := by
  suffices hends : ∃ answer asked lines o',
      loadAverage (.given (recording read)) (ready, ⟨(o, []), journal, calls⟩)
        = (.ok answer, (ready, ⟨(o', asked), journal ++ lines, calls⟩)) ∧
      LoadEnds system hardware answer asked lines by
    obtain ⟨answer, asked, lines, o', hrun, hends⟩ := hends
    exact ⟨answer, asked, lines, o', hrun, hends, hends.answer⟩
  have hread := read_recording hsystem ready [] journal calls
  cases husable : isUsable system with
  | true =>
    cases system with
    | error fault => cases husable
    | ok load =>
      obtain ⟨d, hrun, hround⟩ := exists_loadAverage hread husable
      refine ⟨d, [.systemLoad], [], o₁, ?_, .ofSystem rfl husable hround⟩
      rw [hrun, List.append_nil]
      rfl
  | false =>
    have hpassed := loadAverage_of_not_isUsable hread husable
    have hask := read_recording hhardware ready [.systemLoad] (journal ++ [passedOver system]) calls
    cases hloaded : isUsable hardware with
    | true =>
      cases hardware with
      | error fault => cases hloaded
      | ok load =>
        obtain ⟨d, hrun, hround⟩ := hardwareLoad_of_isUsable hask hloaded
        exact ⟨d, _, [passedOver system], o₂, hpassed.trans hrun,
          .ofHardware husable rfl hloaded hround⟩
    | false =>
      have hrun := hardwareLoad_of_not_isUsable hask hloaded hsmall
      refine ⟨unavailable, _, _, o₂, (hpassed.trans hrun).trans ?_,
        .ofNeither husable hloaded⟩
      rw [withJournal, List.append_assoc]
      rfl

/-- Sensors whose system reports a load below zero, and whose hardware reports one of three. -/
def belowZeroAndThree : Metric → Action Unit Number
  | .systemLoad => pure (.int (-1))
  | .hardwareLoad => pure (.int 3)
  | _ => .fail .noLoadAverage

/-- A load below zero is passed over, and what the hardware reports is answered. -/
theorem loadAverage_of_below_zero :
    ∃ answer asked lines o', loadAverage (.given (recording belowZeroAndThree)) (true,
      ⟨((), []), [], []⟩)
        = (.ok answer, (true, ⟨(o', asked), lines, []⟩)) ∧
      LoadEnds (.ok (.int (-1))) (.ok (.int 3)) answer asked lines ∧
      answer ≠ unavailable ∧ Number.atMost (.int 0) (.real answer) = true := by
  have hsmall : ∀ load, (Except.ok (Number.int 3) : Except Fault Number) = .ok load →
      load.isTooLarge = false := by
    intro load hload
    cases hload
    decide +kernel
  have hsystem : belowZeroAndThree .systemLoad () = (.ok (.int (-1)), ()) := rfl
  have hhardware : belowZeroAndThree .hardwareLoad () = (.ok (.int 3), ()) := rfl
  obtain ⟨answer, asked, lines, o', hrun, hends, hnone, hnonneg⟩ :=
    loadAverage_ends hsystem hhardware hsmall true [] []
  have hanswer : answer ≠ unavailable := by
    intro heq
    have husable : isUsable (.ok (.int 3)) = true := by decide +kernel
    rw [(hnone.mp heq).2] at husable
    exact Bool.false_ne_true husable
  exact ⟨answer, asked, lines, o', hrun, hends, hanswer, hnonneg hanswer⟩

end TenantHost.Monitor
