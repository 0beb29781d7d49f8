import TenantHost.Proofs.Resource.Ranges
/-!
# Operations of a monitor

A monitor is asked for one of its readings, for all of them, or for a decision, again and again,
while the host changes in between. All that an operation does with its source is to read from it,
and what it answers besides is a matter of those readings. So two monitors answer alike as long as
their sources read alike, whatever their journals say.
-/

namespace TenantHost.Monitor

open TenantHost.Action (InStep Beside)

variable {σ τ : Type}

/-- What a monitor can be asked for. -/
inductive Operation where
  | memoryUsage
  | availableMemory
  | totalMemory
  | loadAverage
  | cpuUsage
  | snapshot
  | check (maxLoad reserved : Double)
  deriving DecidableEq

/-- What a monitor answers. -/
inductive Answer where
  | reading (value : Double)
  | snapshot (taken : Snapshot)
  | decision (accepted : Bool)
  deriving DecidableEq

/-- An operation on a monitor. -/
def Operation.act (source : Source σ) : Operation → MonitorAction σ Answer
  | .memoryUsage => do return .reading (← Monitor.memoryUsage source)
  | .availableMemory => do return .reading (← Monitor.availableMemory source)
  | .totalMemory => do return .reading (← Monitor.totalMemory source)
  | .loadAverage => do return .reading (← Monitor.loadAverage source)
  | .cpuUsage => do return .reading (← Monitor.cpuUsage source)
  | .snapshot => do return .snapshot (← Monitor.snapshot source)
  | .check maxLoad reserved => do
    return .decision (← checkResource source (.real maxLoad) (.real reserved))

/-- An operation, and what becomes of the outside before it. -/
structure Call (σ : Type) where
  meanwhile : σ → σ
  operation : Operation

/-- What becomes of the outside while nothing is asked for. -/
def elapse (meanwhile : σ → σ) (s : Bool × World σ) : Bool × World σ :=
  (s.1, { s.2 with outside := meanwhile s.2.outside })

/-- A call. -/
def Call.act (source : Source σ) (call : Call σ) : MonitorAction σ Answer := fun s =>
  call.operation.act source (elapse call.meanwhile s)

/-- The same call where the outside is part of another one. -/
def Call.within (lift : (σ → σ) → τ → τ) (call : Call σ) : Call τ :=
  ⟨lift call.meanwhile, call.operation⟩

/-- What the calls of a session come to, in order, and the state that is left; the session goes on
after a failure. -/
def session (source : Source σ) :
    List (Call σ) → Bool × World σ → List (Except Fault Answer) × (Bool × World σ)
  | [], s => ([], s)
  | call :: rest, s =>
    let (outcome, t) := call.act source s
    let (outcomes, u) := session source rest t
    (outcome :: outcomes, u)

/-! ## Operations in step -/

/-- A correspondence of states that pays no heed to their journals. -/
def IgnoresJournals (R : Bool × World σ → Bool × World τ → Prop) : Prop :=
  ∀ {s t} journal journal', R s t → R (withJournal s journal) (withJournal t journal')

section InStep

variable {R : Bool × World σ → Bool × World τ → Prop} {source : Source σ}
  {other : Source τ}

theorem write_inStep (hjournal : IgnoresJournals R) (line line' : Line) :
    InStep R (World.write line).onSecond (World.write line').onSecond :=
  fun _ _ h => ⟨rfl, hjournal _ _ h⟩

theorem orUnavailable_inStep {α : Type} (hjournal : IgnoresJournals R)
    {reading : MonitorAction σ α}
    {reading' : MonitorAction τ α} {next : α → MonitorAction σ Double}
    {next' : α → MonitorAction τ Double} (h : InStep R reading reading')
    (hnext : ∀ value, InStep R (next value) (next' value)) (activity : String) :
    InStep R (orUnavailable reading activity next) (orUnavailable reading' activity next') := by
  refine h.attempt.bind fun outcome => ?_
  cases outcome with
  | ok value => exact hnext value
  | error fault => exact (write_inStep hjournal _ _).bind fun _ => .pure unavailable

variable (hjournal : IgnoresJournals R)
  (hread : ∀ metric, InStep R (source.read metric) (other.read metric))

include hjournal hread

theorem memoryUsage_inStep : InStep R (memoryUsage source) (memoryUsage other) := by
  have hmemory : InStep R (readMemory source) (readMemory other) :=
    (hread .totalMemory).bind fun total =>
      (hread .availableMemory).bind fun available => .pure (total, available)
  refine orUnavailable_inStep hjournal hmemory (fun memory => ?_) _
  obtain ⟨total, available⟩ := memory
  by_cases hpositive : total.atMost (.int 0) = true
  · simp only [if_pos hpositive]
    exact (InStep.ofExcept (shown total)).bind fun text =>
      (write_inStep hjournal _ _).bind fun _ => .pure unavailable
  · simp only [if_neg hpositive]
    exact .ofExcept (usedPart total available)

theorem availableMemory_inStep : InStep R (availableMemory source) (availableMemory other) :=
  orUnavailable_inStep hjournal (hread .availableMemory)
    (fun bytes => .ofExcept (inGigabytes bytes)) _

theorem totalMemory_inStep : InStep R (totalMemory source) (totalMemory other) :=
  orUnavailable_inStep hjournal (hread .totalMemory) (fun bytes => .ofExcept (inGigabytes bytes)) _

theorem cpuUsage_inStep : InStep R (cpuUsage source) (cpuUsage other) :=
  orUnavailable_inStep hjournal (hread .cpuLoad) (fun usage => .ofExcept (figure usage)) _

theorem systemLoad_inStep : InStep R (systemLoad source) (systemLoad other) := by
  refine (hread .systemLoad).bind fun load => (InStep.ofExcept (isLoad load)).bind fun valid => ?_
  cases valid with
  | true => exact (InStep.ofExcept (rounded load)).bind fun d => .pure (some d)
  | false =>
    exact (InStep.ofExcept (shown load)).bind fun text =>
      (write_inStep hjournal _ _).bind fun _ => .pure none

theorem hardwareLoad_inStep : InStep R (hardwareLoad source) (hardwareLoad other) := by
  refine orUnavailable_inStep hjournal (hread .hardwareLoad) (fun load => ?_) _
  refine (InStep.ofExcept (isLoad load)).bind fun valid => ?_
  cases valid with
  | true => exact .ofExcept (rounded load)
  | false => exact .pure unavailable

theorem loadAverage_inStep : InStep R (loadAverage source) (loadAverage other) := by
  have hhardware := hardwareLoad_inStep hjournal hread
  refine (systemLoad_inStep hjournal hread).attempt.bind fun outcome => ?_
  rcases outcome with fault | _ | load
  · exact (write_inStep hjournal _ _).bind fun _ => hhardware
  · exact hhardware
  · exact .pure load

theorem snapshot_inStep : InStep R (snapshot source) (snapshot other) :=
  (memoryUsage_inStep hjournal hread).bind fun memoryUsage =>
    (availableMemory_inStep hjournal hread).bind fun availableMemory =>
      (totalMemory_inStep hjournal hread).bind fun totalMemory =>
        (loadAverage_inStep hjournal hread).bind fun loadAverage =>
          (cpuUsage_inStep hjournal hread).bind fun cpuUsage =>
            .pure (⟨memoryUsage, availableMemory, totalMemory, loadAverage,
              cpuUsage⟩ : Snapshot)

theorem checkResource_inStep (maxLoad reserved : Number) :
    InStep R (checkResource source maxLoad reserved) (checkResource other maxLoad reserved) := by
  refine (loadAverage_inStep hjournal hread).bind fun load =>
    (availableMemory_inStep hjournal hread).bind fun available => ?_
  by_cases hadmits : admits load available maxLoad reserved = true
  · simp only [if_pos hadmits]
    exact .pure true
  · simp only [if_neg hadmits]
    exact (InStep.ofExcept (shown maxLoad)).bind fun _ =>
      (InStep.ofExcept (shown reserved)).bind fun _ =>
      (write_inStep hjournal _ _).bind fun _ => .pure false

/-- **Operations are in step where the readings of their sources are.** -/
theorem Operation.act_inStep (operation : Operation) :
    InStep R (operation.act source) (operation.act other) := by
  cases operation with
  | memoryUsage => exact (memoryUsage_inStep hjournal hread).bind fun _ => .pure _
  | availableMemory => exact (availableMemory_inStep hjournal hread).bind fun _ => .pure _
  | totalMemory => exact (totalMemory_inStep hjournal hread).bind fun _ => .pure _
  | loadAverage => exact (loadAverage_inStep hjournal hread).bind fun _ => .pure _
  | cpuUsage => exact (cpuUsage_inStep hjournal hread).bind fun _ => .pure _
  | snapshot => exact (snapshot_inStep hjournal hread).bind fun _ => .pure _
  | check maxLoad reserved => exact (checkResource_inStep hjournal hread _ _).bind fun _ => .pure _

/-- So are sessions, if the outsides correspond again after each change. -/
theorem session_inStep (lift : (σ → σ) → τ → τ)
    (helapse : ∀ meanwhile {s t}, R s t → R (elapse meanwhile s) (elapse (lift meanwhile) t))
    (calls : List (Call σ)) {s : Bool × World σ} {t : Bool × World τ} (h : R s t) :
    (session source calls s).1 = (session other (calls.map (Call.within lift)) t).1 ∧
      R (session source calls s).2 (session other (calls.map (Call.within lift)) t).2 := by
  induction calls generalizing s t with
  | nil => exact ⟨rfl, h⟩
  | cons call rest ih =>
    obtain ⟨houtcome, hafter⟩ :=
      call.operation.act_inStep hjournal hread _ _ (helapse call.meanwhile h)
    obtain ⟨houtcomes, hend⟩ := ih hafter
    exact ⟨congr (congrArg List.cons houtcome) houtcomes, hend⟩

end InStep

end TenantHost.Monitor
