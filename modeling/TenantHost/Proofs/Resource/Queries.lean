import TenantHost.Proofs.Resource.Figures
/-!
# When queries return

A query catches the failures of its readings, not those of the arithmetic on them. So it returns
just when the figure that its readings make is manageable, and then with the answer that nothing is
available if there is no finite figure. Where several queries are made one after the other, each of
them has to return.
-/

namespace TenantHost

/-! ## Returning -/

namespace Action

variable {S α β : Type}

/-- Whether an action succeeds. -/
def returns (act : Action S α) (s : S) : Bool :=
  (act s).1.isOk

theorem exists_of_returns {act : Action S α} {s : S} (h : act.returns s = true) :
    ∃ a t, act s = (.ok a, t) := by
  rcases hact : act s with ⟨fault | a, t⟩
  · rw [returns, hact] at h
    cases h
  · exact ⟨a, t, rfl⟩

/-- Whether some actions succeed one after the other, each where the one before it left off. -/
def returnInTurn : List (Action S α) → S → Bool
  | [], _ => true
  | act :: rest, s => act.returns s && returnInTurn rest (act s).2

/-- An action that goes on in a way that succeeds or not whatever the value is. -/
theorem returns_bind {act : Action S α} {next : α → Action S β} {rest : S → Bool}
    (h : ∀ a t, (next a).returns t = rest t) (s : S) :
    (act >>= next).returns s = (act.returns s && rest (act s).2) := by
  unfold returns
  rcases hact : act s with ⟨fault | a, t⟩
  · rw [bind_error hact]
    rfl
  · rw [bind_ok hact]
    exact h a t

end Action

namespace Monitor

open TenantHost.Action

variable {σ α : Type}

/-- The figure of a reading: none if it failed. -/
def ofReading (figureOf : α → Figure) : Except Fault α → Figure
  | .error _ => .ok none
  | .ok value => figureOf value

/-! ## Single queries -/

theorem orUnavailable_ok {reading : MonitorAction σ α} {s t : Bool × World σ}
    {value : α}
    (h : reading s = (.ok value, t)) (activity : String) (next : α → MonitorAction σ Double) :
    orUnavailable reading activity next s = next value t := by
  simp [orUnavailable, h]

theorem orUnavailable_error {reading : MonitorAction σ α} {s t : Bool × World σ} {fault : Fault}
    (h : reading s = (.error fault, t)) (activity : String)
    (next : α → MonitorAction σ Double) :
    (orUnavailable reading activity next s).1 = .ok unavailable := by
  simp [orUnavailable, h]

/-- **A query settles the figure of its reading** if what it goes on with does. -/
theorem orUnavailable_settles {reading : MonitorAction σ α}
    {next : α → MonitorAction σ Double} {figureOf : α → Figure} (activity : String)
    (h : ∀ value t, Settles (figureOf value) (next value t).1) (s : Bool × World σ) :
    Settles (ofReading figureOf (reading s).1) (orUnavailable reading activity next s).1 := by
  rcases hread : reading s with ⟨fault | value, t⟩
  · rw [orUnavailable_error hread]
    exact .missing
  · rw [orUnavailable_ok hread]
    exact h value t

theorem memoryUsage_settles (source : Source σ) (s : Bool × World σ) :
    Settles (ofReading usageFigure (readMemory source s).1) (memoryUsage source s).1 := by
  apply orUnavailable_settles
  rintro ⟨total, available⟩ t
  cases hpositive : total.atMost (.int 0) with
  | true =>
    -- the line shows the total, which may have too many digits for that
    simp only [usageFigure, hpositive, if_true]
    cases hshown : shown total with
    | error fault => exact .failed fault
    | ok text => exact .missing
  | false =>
    simp only [hpositive]
    exact usedPart_settles hpositive

theorem availableMemory_settles (source : Source σ) (s : Bool × World σ) :
    Settles (ofReading gigabytesFigure (source.read .availableMemory s).1)
      (availableMemory source s).1 :=
  orUnavailable_settles _ (fun bytes _ => inGigabytes_settles bytes) s

theorem totalMemory_settles (source : Source σ) (s : Bool × World σ) :
    Settles (ofReading gigabytesFigure (source.read .totalMemory s).1) (totalMemory source s).1 :=
  orUnavailable_settles _ (fun bytes _ => inGigabytes_settles bytes) s

theorem cpuUsage_settles (source : Source σ) (s : Bool × World σ) :
    Settles (ofReading processorsFigure (source.read .cpuLoad s).1) (cpuUsage source s).1 :=
  orUnavailable_settles _ (fun usage _ => figure_settles usage) s

/-! ## The load -/

/-- A state with another journal. -/
def withJournal (s : Bool × World σ) (journal : List Line) : Bool × World σ :=
  (s.1, { s.2 with journal })

theorem hardwareLoad_settles (source : Source σ) (s : Bool × World σ) :
    Settles (ofReading loadFigure (source.read .hardwareLoad s).1) (hardwareLoad source s).1 := by
  apply orUnavailable_settles
  intro load t
  unfold loadFigure
  cases hload : isLoad load with
  | error fault => exact .failed fault
  | ok valid =>
    cases valid with
    | true => exact rounded_settles (isAmount_of_isLoad hload)
    | false => exact .missing

/-- What is made of the load that the system reports. -/
def systemOutcome (load : Number) : Except Fault (Option Double) := do
  if ← isLoad load then return some (← rounded load)
  else
    let _ ← shown load
    return none

/-- Asking the system for its load does no more than to read it, but for a line in the journal. -/
theorem exists_systemLoad_apply (source : Source σ) (s : Bool × World σ) :
    ∃ journal, systemLoad source s
      = ((source.read .systemLoad s).1 >>= systemOutcome,
          withJournal (source.read .systemLoad s).2 journal) := by
  rcases hread : source.read .systemLoad s with ⟨fault | load, t⟩
  · refine ⟨t.2.journal, ?_⟩
    rw [systemLoad, bind_error hread]
    rfl
  · rw [systemLoad, bind_ok hread]
    show ∃ journal, _ = (systemOutcome load, withJournal t journal)
    unfold systemOutcome
    cases hload : isLoad load with
    | error fault => exact ⟨t.2.journal, rfl⟩
    | ok valid =>
      cases valid with
      | true =>
        cases hround : rounded load with
        | error fault => exact ⟨t.2.journal, rfl⟩
        | ok d => exact ⟨t.2.journal, rfl⟩
      | false =>
        cases hshown : shown load with
        | error fault => exact ⟨t.2.journal, rfl⟩
        | ok text => exact ⟨_, rfl⟩

/-- **The load is that of the system, or else that of the hardware.** Between the two readings there
is but a line in the journal. -/
theorem exists_loadAverage_apply (source : Source σ) (s : Bool × World σ) :
    ∃ journal, (loadAverage source s).1
      = match (source.read .systemLoad s).1 >>= systemOutcome with
        | .ok (some load) => .ok load
        | _ => (hardwareLoad source (withJournal (source.read .systemLoad s).2 journal)).1 := by
  obtain ⟨journal, hsystem⟩ := exists_systemLoad_apply source s
  rw [loadAverage, bind_ok (attempt_of hsystem)]
  rcases (source.read .systemLoad s).1 >>= systemOutcome with fault | _ | load
  · exact ⟨_, rfl⟩
  · exact ⟨journal, rfl⟩
  · exact ⟨journal, rfl⟩

/-- The figure of the load: that of the system, unless it is none or too large, or else that of the
hardware. -/
def loadFigureOf (system hardware : Except Fault Number) : Figure :=
  match ofReading loadFigure system with
  | .ok (some load) => if load.isTooLarge then ofReading loadFigure hardware else .ok (some load)
  | _ => ofReading loadFigure hardware

theorem loadAverage_settles (source : Source σ) (s : Bool × World σ) :
    ∃ journal, Settles
      (loadFigureOf (source.read .systemLoad s).1
        (source.read .hardwareLoad (withJournal (source.read .systemLoad s).2 journal)).1)
      (loadAverage source s).1 := by
  obtain ⟨journal, happly⟩ := exists_loadAverage_apply source s
  refine ⟨journal, ?_⟩
  rw [happly]
  have hhardware := hardwareLoad_settles source (withJournal (source.read .systemLoad s).2 journal)
  rcases (source.read .systemLoad s).1 with fault | load
  · exact hhardware
  · show Settles (match loadFigure load with
        | .ok (some load) => if load.isTooLarge then _ else .ok (some load)
        | _ => _)
      (match systemOutcome load with
        | .ok (some d) => .ok d
        | _ => _)
    unfold loadFigure systemOutcome
    cases hload : isLoad load with
    | error fault => exact hhardware
    | ok valid =>
      cases valid with
      | true =>
        -- the load of the system is passed over just when it is too large to be rounded
        have hrounded := rounded_settles (isAmount_of_isLoad hload)
        have hsize := hrounded.isOk_eq
        show Settles (if load.isTooLarge then _ else .ok (some load)) _
        cases hround : rounded load with
        | error fault =>
          rw [hround] at hsize
          have hlarge : load.isTooLarge = true :=
            by simpa [Figure.isManageable, Except.isOk, Except.toBool] using hsize
          rw [if_pos hlarge]
          exact hhardware
        | ok d =>
          rw [hround] at hsize hrounded
          have hsmall : ¬ load.isTooLarge = true :=
            by simpa [Figure.isManageable, Except.isOk, Except.toBool] using hsize
          rw [if_neg hsmall]
          exact hrounded
      | false =>
        cases hshown : shown load with
        | error fault => exact hhardware
        | ok text => exact hhardware

/-! ## All queries -/

theorem snapshot_returns (source : Source σ) (s : Bool × World σ) :
    (snapshot source).returns s
      = returnInTurn [memoryUsage source, availableMemory source, totalMemory source,
          loadAverage source, cpuUsage source] s := by
  unfold snapshot
  apply returns_bind
  intro memoryUsage t
  apply returns_bind
  intro availableMemory t
  apply returns_bind
  intro totalMemory t
  apply returns_bind
  intro loadAverage t
  apply returns_bind
  intro cpuUsage t
  rfl

theorem checkResource_returns (source : Source σ) (maxLoad reserved : Double)
    (s : Bool × World σ) :
    (checkResource source (.real maxLoad) (.real reserved)).returns s
      = returnInTurn [loadAverage source, availableMemory source] s := by
  unfold checkResource
  apply returns_bind
  intro load t
  apply returns_bind
  intro available t
  cases admits load available (.real maxLoad) (.real reserved) <;> rfl

/-- **When queries return, and with what.** Each of the five settles the figure that its readings
make, and those made of several of them return just when these do, one after the other. -/
theorem queries_settle (source : Source σ) (s : Bool × World σ) (maxLoad reserved : Double) :
    Settles (ofReading usageFigure (readMemory source s).1) (memoryUsage source s).1 ∧
      Settles (ofReading gigabytesFigure (source.read .availableMemory s).1)
        (availableMemory source s).1 ∧
      Settles (ofReading gigabytesFigure (source.read .totalMemory s).1)
        (totalMemory source s).1 ∧
      (∃ journal, Settles
        (loadFigureOf (source.read .systemLoad s).1
          (source.read .hardwareLoad (withJournal (source.read .systemLoad s).2 journal)).1)
        (loadAverage source s).1) ∧
      Settles (ofReading processorsFigure (source.read .cpuLoad s).1) (cpuUsage source s).1 ∧
      (snapshot source).returns s
        = returnInTurn [memoryUsage source, availableMemory source, totalMemory source,
            loadAverage source, cpuUsage source] s ∧
      (checkResource source (.real maxLoad) (.real reserved)).returns s
        = returnInTurn [loadAverage source, availableMemory source] s :=
  ⟨memoryUsage_settles source s, availableMemory_settles source s, totalMemory_settles source s,
    loadAverage_settles source s, cpuUsage_settles source s, snapshot_returns source s,
    checkResource_returns source maxLoad reserved s⟩

/-- A number of bytes that has no finite figure in gigabytes makes the query fail. -/
theorem totalMemory_of_overflow :
    (totalMemory (.given fun _ => pure (.int (tenTo 400)))).returns (false, World.start ())
      = false := by
  decide +kernel

end Monitor

end TenantHost
