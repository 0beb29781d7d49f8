import TenantHost.Proofs.Resource.Documented
/-!
# A monitor that degrades and recovers

The sensors of a system are got ready when they are first needed, and that may fail. What a monitor
does about it can be told from a ledger of its accesses to the sensors: each of them tries to get
the sensors ready until that succeeds, and from then on the sensors only serve. So failures leave no
trace but one: until the sensors are ready nothing is available, and afterwards every answer is a
matter of the readings that it is made of.
-/

namespace TenantHost.Monitor

open TenantHost.Action (InStep Beside)

variable {σ : Type}

/-! ## Getting ready -/

section Ready

variable {sensors : Sensors σ} {w : World σ} {o : σ}

theorem read_of_ready (metric : Metric) :
    (Source.system sensors).read metric (true, w)
      = ((sensors.read metric w).1, (true, (sensors.read metric w).2)) :=
  rfl

theorem read_of_not_ready {fault : Fault} (h : sensors.cpuPercent w.outside = (.error fault, o))
    (metric : Metric) :
    (Source.system sensors).read metric (false, w)
      = (.error fault, (false, { w with outside := o })) := by
  simp [Source.read, Sensors.ready, h]

theorem read_of_made_ready {percent : Number} (h : sensors.cpuPercent w.outside = (.ok percent, o))
    (metric : Metric) :
    (Source.system sensors).read metric (false, w)
      = (Source.system sensors).read metric (true, { w with outside := o }) := by
  simp [Source.read, Sensors.ready, h]

end Ready

/-! ## The ledger of the accesses -/

/-- An access to the sensors: what is read, and whether the sensors could be got ready for it;
`none` if they were ready and no attempt was made. -/
structure Access where
  metric : Metric
  attempt : Option Bool

/-- The sensors with the accesses to them, in order. -/
structure Ledger (σ : Type) where
  ready : Bool
  world : World σ
  accesses : List Access

namespace Ledger

/-- The ledger of sensors that were never accessed. -/
def start (o : σ) : Ledger σ :=
  ⟨false, World.start o, []⟩

/-- What becomes of the outside of the sensors. -/
def change (meanwhile : σ → σ) (ledger : Ledger σ) : Ledger σ :=
  { ledger with world := { ledger.world with outside := meanwhile ledger.world.outside } }

/-- Reads a metric, and writes down the access: if the sensors are not ready, the first percentage
is asked for, and nothing is read if that fails. -/
def read (sensors : Sensors σ) (metric : Metric) : Action (Ledger σ) Number := fun ledger =>
  let serve (attempt : Option Bool) (w : World σ) : Except Fault Number × Ledger σ :=
    ((sensors.read metric w).1,
      ⟨true, (sensors.read metric w).2, ledger.accesses ++ [⟨metric, attempt⟩]⟩)
  if ledger.ready then serve none ledger.world
  else
    match sensors.cpuPercent ledger.world.outside with
    | (.ok _, o) => serve (some true) { ledger.world with outside := o }
    | (.error fault, o) =>
      (.error fault,
        ⟨false, { ledger.world with outside := o },
          ledger.accesses ++ [⟨metric, some false⟩]⟩)

section Read

variable {sensors : Sensors σ} {ledger : Ledger σ} {metric : Metric} {o : σ}

theorem read_of_ready (h : ledger.ready = true) :
    Ledger.read sensors metric ledger = ((sensors.read metric ledger.world).1,
      ⟨true, (sensors.read metric ledger.world).2,
        ledger.accesses ++ [⟨metric, none⟩]⟩) := by
  simp only [Ledger.read, h, if_true]

theorem read_of_not_ready {fault : Fault} (h : ledger.ready = false)
    (hfirst : sensors.cpuPercent ledger.world.outside = (.error fault, o)) :
    Ledger.read sensors metric ledger = (.error fault,
      ⟨false, { ledger.world with outside := o },
        ledger.accesses ++ [⟨metric, some false⟩]⟩) := by
  simp only [Ledger.read, h, hfirst, Bool.false_eq_true, if_false]

theorem read_of_made_ready {percent : Number} (h : ledger.ready = false)
    (hfirst : sensors.cpuPercent ledger.world.outside = (.ok percent, o)) :
    Ledger.read sensors metric ledger
      = ((sensors.read metric { ledger.world with outside := o }).1,
        ⟨true, (sensors.read metric { ledger.world with outside := o }).2,
          ledger.accesses ++ [⟨metric, some true⟩]⟩) := by
  simp only [Ledger.read, h, hfirst, Bool.false_eq_true, if_false]

end Read

/-- What the attempts to get the sensors ready come to: all fail but the last one, after which there
are none. -/
def Orderly (ledger : Ledger σ) : Prop :=
  ∃ failed served, ledger.accesses.map Access.attempt = List.replicate failed (some false) ++
    if ledger.ready then some true :: List.replicate served none else []

/-- That a ledger was kept of a monitor. -/
structure Tracks (s : Bool × World σ) (t : Bool × World (Ledger σ)) : Prop where
  ready : t.2.outside.ready = s.1
  outside : SameOutside s.2 t.2.outside.world
  orderly : t.2.outside.Orderly

theorem orderly_start (o : σ) : (start o).Orderly :=
  ⟨0, 0, rfl⟩

/-- An access that is served leaves an orderly ledger orderly. -/
theorem Orderly.serve {ledger : Ledger σ} (h : ledger.Orderly) (metric : Metric) (w : World σ) :
    Orderly ⟨true, w, ledger.accesses
      ++ [⟨metric, if ledger.ready then none else some true⟩]⟩ := by
  obtain ⟨failed, served, hattempts⟩ := h
  cases hready : ledger.ready with
  | true =>
    rw [hready] at hattempts
    refine ⟨failed, served + 1, ?_⟩
    rw [List.map_append, hattempts, List.append_assoc, List.replicate_succ']
    rfl
  | false =>
    rw [hready, if_neg Bool.false_ne_true, List.append_nil] at hattempts
    refine ⟨failed, 0, ?_⟩
    rw [List.map_append, hattempts]
    rfl

/-- So does an attempt that fails. -/
theorem Orderly.fail {ledger : Ledger σ} (h : ledger.Orderly) (hready : ledger.ready = false)
    (metric : Metric)
    (w : World σ) : Orderly ⟨false, w, ledger.accesses ++ [⟨metric, some false⟩]⟩ := by
  obtain ⟨failed, served, hattempts⟩ := h
  rw [hready, if_neg Bool.false_ne_true, List.append_nil] at hattempts
  refine ⟨failed + 1, 0, ?_⟩
  rw [List.map_append, hattempts, List.replicate_succ']
  exact (List.append_nil _).symm

/-- **An access that is written down goes as it would have gone.** -/
theorem read_inStep (sensors : Sensors σ) (metric : Metric) :
    InStep Tracks ((Source.system sensors).read metric)
      ((Source.given (Ledger.read sensors)).read metric) := by
  rintro ⟨ready, w⟩ ⟨k, ledger, journal, calls⟩ ⟨hready, hsame, horderly⟩
  have hgiven : (Source.given (Ledger.read sensors)).read metric (k, ⟨ledger, journal, calls⟩)
      = ((Ledger.read sensors metric ledger).1,
        (k, ⟨(Ledger.read sensors metric ledger).2, journal, calls⟩)) := rfl
  rw [hgiven]
  have hserve := fun w' => horderly.serve metric w'
  cases ready with
  | true =>
    obtain ⟨houtcome, hafter⟩ := sensors_read_inStep sensors metric w ledger.world hsame
    rw [Monitor.read_of_ready, Ledger.read_of_ready hready]
    rw [hready] at hserve
    exact ⟨houtcome, rfl, hafter, hserve _⟩
  | false =>
    have hfirst : sensors.cpuPercent ledger.world.outside = sensors.cpuPercent w.outside :=
      congrArg sensors.cpuPercent hsame.symm
    rcases hpercent : sensors.cpuPercent w.outside with ⟨fault | percent, o⟩
    · rw [Monitor.read_of_not_ready hpercent,
        Ledger.read_of_not_ready hready (hfirst.trans hpercent)]
      exact ⟨rfl, rfl, rfl, horderly.fail hready metric _⟩
    · obtain ⟨houtcome, hafter⟩ := sensors_read_inStep sensors metric { w with outside := o }
        { ledger.world with outside := o } rfl
      rw [Monitor.read_of_made_ready hpercent, Monitor.read_of_ready,
        Ledger.read_of_made_ready hready (hfirst.trans hpercent)]
      rw [hready] at hserve
      exact ⟨houtcome, rfl, hafter, hserve _⟩

theorem tracks_ignoresJournals : IgnoresJournals (Tracks (σ := σ)) :=
  fun _ _ h => ⟨h.ready, h.outside, h.orderly⟩

theorem tracks_elapse (meanwhile : σ → σ) {s : Bool × World σ} {t : Bool × World (Ledger σ)}
    (h : Tracks s t) : Tracks (elapse meanwhile s) (elapse (change meanwhile) t) :=
  ⟨h.ready, congrArg meanwhile h.outside, h.orderly⟩

end Ledger

/-! ## While the sensors cannot be got ready -/

/-- That an action after which the sensors are not ready has found them so, has accessed them a
number of times, and comes to an outcome of a certain kind. -/
def WhileUnready {α : Type} (act : MonitorAction (Ledger σ) α) (count : Nat)
    (outcomes : Except Fault α → Prop) : Prop :=
  ∀ t, (act t).2.2.outside.ready = false →
    t.2.outside.ready = false ∧
      (act t).2.2.outside.accesses.length = t.2.outside.accesses.length + count ∧
        outcomes (act t).1

/-- That an outcome is a failure. -/
def Failed {α : Type} (outcome : Except Fault α) : Prop :=
  ∃ fault, outcome = .error fault

namespace WhileUnready

variable {α β : Type}

/-- What leaves the outside alone accesses nothing. -/
theorem of_outside {act : MonitorAction (Ledger σ) α} {outcomes : Except Fault α → Prop}
    (h : ∀ t, (act t).2.2.outside = t.2.outside) (houtcome : ∀ t, outcomes (act t).1) :
    WhileUnready act 0 outcomes := by
  intro t hend
  rw [h t] at hend ⊢
  exact ⟨hend, rfl, houtcome t⟩

theorem pure (a : α) : WhileUnready (σ := σ) (Pure.pure a) 0 (· = .ok a) :=
  of_outside (fun _ => rfl) fun _ => rfl

/-- **Actions one behind the other**, of which the first one comes to a value. -/
theorem bind {act : MonitorAction (Ledger σ) α} {next : α → MonitorAction (Ledger σ) β}
    {m n : Nat} {a : α} {P : α → Except Fault β → Prop} (h : WhileUnready act m (· = .ok a))
    (hnext : ∀ b, WhileUnready (next b) n (P b)) :
    WhileUnready (act >>= next) (m + n) (P a) := by
  intro t hend
  rcases hact : act t with ⟨fault | b, u⟩
  · rw [Action.bind_error hact] at hend
    obtain ⟨-, -, houtcome⟩ := h t (by rw [hact]; exact hend)
    rw [hact] at houtcome
    cases houtcome
  · rw [Action.bind_ok hact] at hend ⊢
    obtain ⟨hmiddle, hcount, houtcome⟩ := hnext b u hend
    obtain ⟨hstart, hcount', hvalue⟩ := h t (by rw [hact]; exact hmiddle)
    rw [hact] at hcount' hvalue
    obtain rfl : b = a := Except.ok.inj hvalue
    refine ⟨hstart, ?_, houtcome⟩
    rw [hcount, hcount', Nat.add_assoc]

/-- Actions of which the first one fails: the others are not reached. -/
theorem bind_failed {act : MonitorAction (Ledger σ) α}
    {next : α → MonitorAction (Ledger σ) β} {m n : Nat}
    {P : α → Except Fault β → Prop} (h : WhileUnready act m Failed)
    (hnext : ∀ b, WhileUnready (next b) n (P b)) : WhileUnready (act >>= next) m Failed := by
  intro t hend
  rcases hact : act t with ⟨fault | b, u⟩
  · rw [Action.bind_error hact] at hend ⊢
    obtain ⟨hstart, hcount, -⟩ := h t (by rw [hact]; exact hend)
    rw [hact] at hcount
    exact ⟨hstart, hcount, fault, rfl⟩
  · rw [Action.bind_ok hact] at hend
    obtain ⟨hmiddle, -, -⟩ := hnext b u hend
    obtain ⟨-, -, fault, houtcome⟩ := h t (by rw [hact]; exact hmiddle)
    rw [hact] at houtcome
    cases houtcome

/-- An access fails if the sensors are not ready after it. -/
theorem read (sensors : Sensors σ) (metric : Metric) :
    WhileUnready ((Source.given (Ledger.read sensors)).read metric) 1 Failed := by
  rintro ⟨k, ledger, journal, calls⟩ hend
  have hgiven : (Source.given (Ledger.read sensors)).read metric (k, ⟨ledger, journal, calls⟩)
      = ((Ledger.read sensors metric ledger).1,
        (k, ⟨(Ledger.read sensors metric ledger).2, journal, calls⟩)) := rfl
  rw [hgiven] at hend ⊢
  cases hready : ledger.ready with
  | true =>
    rw [Ledger.read_of_ready hready] at hend
    cases hend
  | false =>
    rcases hfirst : sensors.cpuPercent ledger.world.outside with ⟨fault | percent, o⟩
    · rw [Ledger.read_of_not_ready hready hfirst]
      exact ⟨rfl, List.length_append, fault, rfl⟩
    · rw [Ledger.read_of_made_ready hready hfirst] at hend
      cases hend

/-- **A query is answered that nothing is available.** -/
theorem orUnavailable {reading : MonitorAction (Ledger σ) α}
    {next : α → MonitorAction (Ledger σ) Double} {n : Nat} (h : WhileUnready reading n Failed)
    (hnext : ∀ value t, (next value t).2.2.outside = t.2.outside) (activity : String) :
    WhileUnready (Monitor.orUnavailable reading activity next) n (· = .ok unavailable) := by
  intro t hend
  rcases hreading : reading t with ⟨fault | value, u⟩
  · rw [Monitor.orUnavailable, Action.bind_ok (Action.attempt_of hreading)] at hend ⊢
    obtain ⟨hstart, hcount, -⟩ := h t (by rw [hreading]; exact hend)
    rw [hreading] at hcount
    exact ⟨hstart, hcount, rfl⟩
  · rw [orUnavailable_ok hreading, hnext] at hend
    obtain ⟨-, -, fault, houtcome⟩ := h t (by rw [hreading]; exact hend)
    rw [hreading] at houtcome
    cases houtcome

end WhileUnready

section Queries

variable (sensors : Sensors σ)

theorem memoryUsage_whileUnready :
    WhileUnready (memoryUsage (.given (Ledger.read sensors))) 1 (· = .ok unavailable) := by
  have hmemory : WhileUnready (readMemory (.given (Ledger.read sensors))) 1 Failed :=
    (WhileUnready.read sensors .totalMemory).bind_failed fun total =>
      (WhileUnready.read sensors .availableMemory).bind_failed fun available =>
        WhileUnready.pure (total, available)
  refine hmemory.orUnavailable ?_ _
  rintro ⟨total, available⟩ t
  cases hpositive : total.atMost (.int 0) with
  | true =>
    simp only [hpositive, if_true]
    cases shown total <;> rfl
  | false => simp only [hpositive]; rfl

theorem availableMemory_whileUnready :
    WhileUnready (availableMemory (.given (Ledger.read sensors))) 1 (· = .ok unavailable) :=
  (WhileUnready.read sensors .availableMemory).orUnavailable (fun _ _ => rfl) _

theorem totalMemory_whileUnready :
    WhileUnready (totalMemory (.given (Ledger.read sensors))) 1 (· = .ok unavailable) :=
  (WhileUnready.read sensors .totalMemory).orUnavailable (fun _ _ => rfl) _

theorem cpuUsage_whileUnready :
    WhileUnready (cpuUsage (.given (Ledger.read sensors))) 1 (· = .ok unavailable) :=
  (WhileUnready.read sensors .cpuLoad).orUnavailable (fun _ _ => rfl) _

theorem hardwareLoad_whileUnready :
    WhileUnready (hardwareLoad (.given (Ledger.read sensors))) 1 (· = .ok unavailable) := by
  refine (WhileUnready.read sensors .hardwareLoad).orUnavailable (fun load t => ?_) _
  rcases hload : isLoad load with fault | _ | _ <;> rfl

theorem systemLoad_whileUnready :
    WhileUnready (systemLoad (.given (Ledger.read sensors))) 1 Failed := by
  refine (WhileUnready.read sensors .systemLoad).bind_failed (P := fun _ _ => True) fun load =>
    WhileUnready.of_outside (fun t => ?_) fun _ => trivial
  rcases isLoad load with fault | _ | _
  · rfl
  · cases shown load <;> rfl
  · cases rounded load <;> rfl

/-- The sensors are accessed for the load of the system, and again for that of the hardware. -/
theorem loadAverage_whileUnready :
    WhileUnready (loadAverage (.given (Ledger.read sensors))) 2 (· = .ok unavailable) := by
  have hhardware := hardwareLoad_whileUnready sensors
  intro t hend
  have hsystem := systemLoad_whileUnready sensors t
  rcases hrun : systemLoad (.given (Ledger.read sensors)) t with ⟨fault | _ | load, u⟩
  · rw [hrun] at hsystem
    rw [loadAverage, Action.bind_ok (Action.attempt_of hrun)] at hend ⊢
    obtain ⟨hmiddle, hcount, houtcome⟩ := hhardware _ hend
    obtain ⟨hstart, hcount', -⟩ := hsystem hmiddle
    refine ⟨hstart, hcount.trans ?_, houtcome⟩
    exact congrArg (· + 1) hcount'
  -- otherwise the load of the system was read, and the sensors were ready
  · rw [hrun] at hsystem
    rw [loadAverage, Action.bind_ok (Action.attempt_of hrun)] at hend
    obtain ⟨hmiddle, -, -⟩ := hhardware u hend
    obtain ⟨-, -, fault, houtcome⟩ := hsystem hmiddle
    cases houtcome
  · rw [hrun] at hsystem
    rw [loadAverage, Action.bind_ok (Action.attempt_of hrun)] at hend
    obtain ⟨-, -, fault, houtcome⟩ := hsystem hend
    cases houtcome

/-- A snapshot of nothing. -/
def nothingAvailable : Snapshot :=
  ⟨unavailable, unavailable, unavailable, unavailable, unavailable⟩

theorem snapshot_whileUnready :
    WhileUnready (snapshot (.given (Ledger.read sensors))) 6 (· = .ok nothingAvailable) := by
  unfold snapshot
  -- what is not yet asked for is known to be unavailable already
  refine (memoryUsage_whileUnready sensors).bind (n := 5)
    (P := fun used outcome =>
      outcome = .ok (Snapshot.mk used unavailable unavailable unavailable unavailable))
        fun used => ?_
  refine (availableMemory_whileUnready sensors).bind (n := 4)
    (P := fun available outcome =>
      outcome = .ok (Snapshot.mk used available unavailable unavailable unavailable))
        fun available => ?_
  refine (totalMemory_whileUnready sensors).bind (n := 3)
    (P := fun total outcome =>
      outcome = .ok (Snapshot.mk used available total unavailable unavailable)) fun total => ?_
  refine (loadAverage_whileUnready sensors).bind (n := 1)
    (P := fun load outcome =>
      outcome = .ok (Snapshot.mk used available total load unavailable)) fun load => ?_
  exact (cpuUsage_whileUnready sensors).bind
    (P := fun cpu outcome => outcome = .ok (Snapshot.mk used available total load cpu))
    fun cpu => WhileUnready.pure _

theorem checkResource_whileUnready (maxLoad reserved : Double) :
    WhileUnready (checkResource (.given (Ledger.read sensors)) (.real maxLoad) (.real reserved)) 3
      (· = .ok (admits unavailable unavailable (.real maxLoad) (.real reserved))) := by
  refine (loadAverage_whileUnready sensors).bind (n := 1)
    (P := fun load outcome => outcome = .ok (admits load unavailable _ _)) fun load =>
      (availableMemory_whileUnready sensors).bind (n := 0)
        (P := fun available outcome => outcome = .ok (admits load available _ _)) fun available =>
          WhileUnready.of_outside (fun t => ?_) fun t => ?_
  · cases admits load available (.real maxLoad) (.real reserved) <;> rfl
  · cases admits load available (.real maxLoad) (.real reserved) <;> rfl

end Queries

/-! ## Operations and sessions -/

/-- How often an operation accesses sensors that cannot be got ready. -/
def Operation.accesses : Operation → Nat
  | .memoryUsage | .availableMemory | .totalMemory | .cpuUsage => 1
  | .loadAverage => 2
  | .snapshot => 6
  | .check _ _ => 3

/-- What an operation answers by readings of which none is available. -/
def Operation.withoutReadings : Operation → Answer
  | .memoryUsage | .availableMemory | .totalMemory | .loadAverage | .cpuUsage =>
    .reading unavailable
  | .snapshot => .snapshot nothingAvailable
  | .check maxLoad reserved =>
    .decision (admits unavailable unavailable (.real maxLoad) (.real reserved))

/-- **As long as the sensors cannot be got ready, an operation tries it at each access, and answers
that nothing is available.** -/
theorem Operation.act_whileUnready (sensors : Sensors σ) (operation : Operation) :
    WhileUnready (operation.act (.given (Ledger.read sensors))) operation.accesses
      (· = .ok operation.withoutReadings) := by
  cases operation with
  | memoryUsage => exact (memoryUsage_whileUnready sensors).bind fun _ => WhileUnready.pure _
  | availableMemory =>
    exact (availableMemory_whileUnready sensors).bind fun _ => WhileUnready.pure _
  | totalMemory => exact (totalMemory_whileUnready sensors).bind fun _ => WhileUnready.pure _
  | loadAverage => exact (loadAverage_whileUnready sensors).bind fun _ => WhileUnready.pure _
  | cpuUsage => exact (cpuUsage_whileUnready sensors).bind fun _ => WhileUnready.pure _
  | snapshot => exact (snapshot_whileUnready sensors).bind fun _ => WhileUnready.pure _
  | check maxLoad reserved =>
    exact (checkResource_whileUnready sensors maxLoad reserved).bind fun _ => WhileUnready.pure _

/-- How often the calls of a session access sensors that cannot be got ready. -/
def accessesOf : List (Call σ) → Nat
  | [] => 0
  | call :: rest => call.operation.accesses + accessesOf rest

/-- So it is with all operations of a session that ends before the sensors are ready. -/
theorem session_whileUnready (sensors : Sensors σ) (calls : List (Call σ))
    {t : Bool × World (Ledger σ)} (hend : (session (.given (Ledger.read sensors))
      (calls.map (Call.within Ledger.change)) t).2.2.outside.ready = false) :
    t.2.outside.ready = false ∧
      (session (.given (Ledger.read sensors)) (calls.map (Call.within Ledger.change)) t).1
        = calls.map (fun call => .ok call.operation.withoutReadings) ∧
      (session (.given (Ledger.read sensors)) (calls.map (Call.within Ledger.change))
        t).2.2.outside.accesses.length
        = t.2.outside.accesses.length + accessesOf calls := by
  induction calls generalizing t with
  | nil => exact ⟨hend, rfl, rfl⟩
  | cons call rest ih =>
    obtain ⟨hmiddle, houtcomes, hcount⟩ := ih hend
    obtain ⟨hstart, hcount', houtcome⟩ :=
      call.operation.act_whileUnready sensors (elapse (Ledger.change call.meanwhile) t) hmiddle
    refine ⟨hstart, congr (congrArg List.cons houtcome) houtcomes, hcount.trans ?_⟩
    rw [accessesOf, ← Nat.add_assoc]
    exact congrArg (· + accessesOf rest) hcount'

/-- The ledger of a session, and what its calls come to by the ledger. -/
def Ledger.ofSession (sensors : Sensors σ) (calls : List (Call σ)) (o : σ) :
    List (Except Fault Answer) × Ledger σ :=
  let run := session (.given (Ledger.read sensors)) (calls.map (Call.within Ledger.change))
    (false, World.start (Ledger.start o))
  (run.1, run.2.2.outside)

/-- A session is as its ledger says. -/
theorem Ledger.ofSession_spec (sensors : Sensors σ) (calls : List (Call σ)) (o : σ) :
    (session (.system sensors) calls (false, World.start o)).1
      = (Ledger.ofSession sensors calls o).1 ∧
      (session (.system sensors) calls (false, World.start o)).2.1
        = (Ledger.ofSession sensors calls o).2.ready ∧
      (Ledger.ofSession sensors calls o).2.Orderly := by
  have hstart : Ledger.Tracks (false, World.start o) (false, World.start (Ledger.start o)) :=
    ⟨rfl, rfl, Ledger.orderly_start o⟩
  obtain ⟨houtcomes, hend⟩ := session_inStep Ledger.tracks_ignoresJournals
      (Ledger.read_inStep sensors)
    Ledger.change Ledger.tracks_elapse calls hstart
  exact ⟨houtcomes, hend.ready.symm, hend.orderly⟩

/-- No call of a session fails on manageable readings. -/
theorem session_returns {source : Source σ} (h : IsManageable source) (calls : List (Call σ))
    (s : Bool × World σ) : ∀ outcome ∈ (session source calls s).1, outcome.isOk = true := by
  induction calls generalizing s with
  | nil =>
    intro outcome houtcome
    exact absurd houtcome List.not_mem_nil
  | cons call rest ih =>
    intro outcome houtcome
    rcases List.mem_cons.mp houtcome with rfl | houtcome
    · exact h.act_returns call.operation (elapse call.meanwhile s)
    · exact ih (call.act source s).2 outcome houtcome

/-- That two monitors go on alike, and their sensors are ready. -/
def BothReady (s t : Bool × World σ) : Prop :=
  Beside SameOutside s t ∧ s.1 = true

/-- Sensors that are ready stay ready. -/
theorem act_of_ready (sensors : Sensors σ) (operation : Operation) {s : Bool × World σ}
    (h : s.1 = true) :
    (operation.act (.system sensors) s).2.1 = true := by
  have hread : ∀ metric, InStep BothReady ((Source.system sensors).read metric)
      ((Source.system sensors).read metric) := by
    rintro metric ⟨ready, w⟩ t ⟨hsame, hready⟩
    obtain rfl : ready = true := hready
    obtain ⟨houtcome, hafter⟩ := Monitor.read_inStep (.system sensors) metric (true, w) t hsame
    exact ⟨houtcome, hafter, rfl⟩
  have hstep : InStep BothReady (operation.act (.system sensors))
      (operation.act (.system sensors)) :=
    operation.act_inStep (fun _ _ hst => hst) hread
  exact (hstep s s ⟨⟨rfl, rfl⟩, h⟩).2.2

/-- What calls come to is a matter of the outside and of whether the sensors are ready. -/
theorem session_outcomes_eq (source : Source σ) (later : List (Call σ)) {s t : Bool × World σ}
    (h : Beside SameOutside s t) : (session source later s).1 = (session source later t).1 := by
  have hsame : later.map (Call.within id) = later := List.map_id later
  have hstep := (session_inStep (R := Beside SameOutside) (fun _ _ hst => hst)
    (Monitor.read_inStep source) id
    (fun meanwhile _ _ hst => ⟨hst.1, congrArg meanwhile hst.2⟩) later h).1
  rw [hsame] at hstep
  exact hstep

/-- The sensors as a source that has nothing to get ready. -/
def served (sensors : Sensors σ) : Source σ :=
  .given fun metric o =>
    ((sensors.read metric (World.start o)).1, (sensors.read metric (World.start o)).2.outside)

/-- Once the sensors are ready, a monitor answers as one that was given them. -/
theorem session_of_ready (sensors : Sensors σ) (later : List (Call σ)) {s : Bool × World σ}
    (h : s.1 = true) : (session (.system sensors) later s).1
      = (session (served sensors) later s).1 := by
  have hread : ∀ metric, InStep BothReady ((Source.system sensors).read metric)
      ((served sensors).read metric) := by
    rintro metric ⟨ready, w⟩ ⟨ready', w'⟩ ⟨⟨rfl, hsame⟩, hready⟩
    obtain rfl : ready = true := hready
    obtain ⟨houtcome, hafter⟩ := sensors_read_inStep sensors metric w
        (World.start w'.outside) hsame
    exact ⟨houtcome, ⟨rfl, hafter⟩, rfl⟩
  have hstep := (session_inStep (R := BothReady) (fun _ _ hst => hst) hread id
    (fun meanwhile _ _ hst => ⟨⟨hst.1.1, congrArg meanwhile hst.1.2⟩, hst.2⟩) later
    (s := s) (t := s) ⟨⟨rfl, rfl⟩, h⟩).1
  have hsame : later.map (Call.within id) = later := List.map_id later
  rw [hsame] at hstep
  exact hstep

/-! ## Snapshots by their parts -/

/-- The parts of a snapshot, each of them asked for by itself. -/
def snapshotParts : List (Call σ) :=
  [.memoryUsage, .availableMemory, .totalMemory, .loadAverage, .cpuUsage].map (Call.mk id)

/-- The readings of a snapshot in the order in which they are taken. -/
def readingsOf (taken : Snapshot) : List Double :=
  [taken.memoryUsage, taken.availableMemory, taken.totalMemory, taken.loadAverage, taken.cpuUsage]

theorem session_part {source : Source σ} (operation : Operation) {query : MonitorAction σ Double}
    (hoperation : operation.act source = do return .reading (← query)) {s t : Bool × World σ}
    {value : Double} (h : query s = (.ok value, t)) (rest : List (Call σ)) :
    session source (⟨id, operation⟩ :: rest) s
      = (.ok (.reading value) :: (session source rest t).1, (session source rest t).2) := by
  have hact : Call.act source ⟨id, operation⟩ s = (.ok (.reading value), t) :=
    (congrFun hoperation s).trans (Action.bind_ok h)
  rw [session, hact]

/-- **A snapshot is its parts, asked for one after the other.** -/
theorem session_snapshotParts {source : Source σ} (h : IsManageable source)
    (s : Bool × World σ) :
    ∃ taken, (Operation.snapshot.act source s).1 = .ok (.snapshot taken) ∧
      session source snapshotParts s
        = ((readingsOf taken).map fun value => .ok (.reading value),
          (Operation.snapshot.act source s).2) := by
  obtain ⟨used, s₁, hused⟩ := Action.exists_of_returns (h.memoryUsage_returns s)
  obtain ⟨available, s₂, havailable⟩ :=
    Action.exists_of_returns (h.availableMemory_returns s₁)
  obtain ⟨total, s₃, htotal⟩ := Action.exists_of_returns (h.totalMemory_returns s₂)
  obtain ⟨load, s₄, hload⟩ := Action.exists_of_returns (h.loadAverage_returns s₃)
  obtain ⟨cpu, s₅, hcpu⟩ := Action.exists_of_returns (h.cpuUsage_returns s₄)
  have hsnapshot : snapshot source s = (.ok ⟨used, available, total, load, cpu⟩, s₅) := by
    simp [snapshot, hused, havailable, htotal, hload, hcpu]
  have hact : Operation.snapshot.act source s
      = (.ok (.snapshot ⟨used, available, total, load, cpu⟩), s₅) :=
    Action.bind_ok hsnapshot
  rw [hact]
  refine ⟨_, rfl, ?_⟩
  rw [snapshotParts, List.map_cons, session_part .memoryUsage rfl hused, List.map_cons,
    session_part .availableMemory rfl havailable, List.map_cons,
    session_part .totalMemory rfl htotal, List.map_cons, session_part .loadAverage rfl hload,
    List.map_cons, session_part .cpuUsage rfl hcpu]
  rfl

/-! ## Degradation and recovery -/

/-- **A monitor degrades and recovers.** Whatever is asked of it, and whichever of the sensors fail
in between, no operation fails. Its ledger tells the same answers, and that the sensors are got
ready once at most: all attempts before fail, and none is made afterwards. Until then every access
is such an attempt, and nothing is available. Once the sensors are ready they stay so, and the
answers are those of a monitor that was given them; a snapshot in which they get ready is told apart
by its parts. And whether the sensors are ready is all that calls leave behind for later ones,
whatever failed in them. -/
theorem session_recovers {sensors : Sensors σ} (h : sensors.KeepRanges) (calls : List (Call σ))
    (o : σ) :
    let run := session (.system sensors) calls (false, World.start o)
    let ledger := Ledger.ofSession sensors calls o
    (∀ outcome ∈ run.1, outcome.isOk = true) ∧
      (run.1 = ledger.1 ∧ run.2.1 = ledger.2.ready ∧ ledger.2.Orderly) ∧
      (run.2.1 = false →
        run.1 = calls.map (fun call => .ok call.operation.withoutReadings) ∧
          ledger.2.accesses.length = accessesOf calls) ∧
      (run.2.1 = true → (∀ call : Call σ, (call.act (.system sensors) run.2).2.1 = true) ∧
        ∀ later, (session (.system sensors) later run.2).1
          = (session (served sensors) later run.2).1) ∧
      (∃ taken, (Operation.snapshot.act (.system sensors) run.2).1 = .ok (.snapshot taken) ∧
        session (.system sensors) snapshotParts run.2
          = ((readingsOf taken).map fun value => .ok (.reading value),
            (Operation.snapshot.act (.system sensors) run.2).2)) ∧
      ∀ call call' : Call σ,
        (call.act (.system sensors) run.2).2.1 = (call'.act (.system sensors) run.2).2.1 →
        ∀ o' later,
          (session (.system sensors) later
              (elapse (fun _ => o') (call.act (.system sensors) run.2).2)).1
            = (session (.system sensors) later
              (elapse (fun _ => o') (call'.act (.system sensors) run.2).2)).1 := by
  obtain ⟨houtcomes, hready, horderly⟩ := Ledger.ofSession_spec sensors calls o
  refine ⟨session_returns h.isManageable calls _, ⟨houtcomes, hready, horderly⟩, ?_, ?_,
    session_snapshotParts h.isManageable _, ?_⟩
  · intro hend
    rw [hready] at hend
    obtain ⟨-, hanswers, hcount⟩ := session_whileUnready sensors calls hend
    exact ⟨houtcomes.trans hanswers, hcount.trans (Nat.zero_add _)⟩
  · intro hend
    exact ⟨fun call => act_of_ready sensors call.operation hend,
      fun later => session_of_ready sensors later hend⟩
  · intro call call' hflags o' later
    exact session_outcomes_eq _ later ⟨hflags, rfl⟩

/-- A system that may not answer, and whose percentages cannot be had the next few times in any
case. -/
structure Flicker where
  waits : Nat
  answers : Bool

/-- A sensor that gives a number as long as its system answers. -/
def givenAnswering (n : Int) : Action Flicker Number := fun o =>
  (if o.answers then .ok (.int n) else .error .noLoadAverage, o)

theorem eq_of_givenAnswering {n : Int} {o : Flicker} {value : Number}
    (h : (givenAnswering n o).1 = .ok value) : value = .int n := by
  rcases o with ⟨waits, _ | _⟩
  · cases h
  · exact (Except.ok.inj h).symm

/-- The sensors of a system with half of its sixteen gibibytes available, a load of one, and half of
its processors in use, as long as it answers. -/
def flickering : Sensors Flicker where
  totalMemory := givenAnswering 17179869184
  availableMemory := givenAnswering 8589934592
  cpuPercent := fun o =>
    if o.waits = 0 then givenAnswering 50 o
    else (.error .noLoadAverage, { o with waits := o.waits - 1 })
  hardwareLoad := givenAnswering 1
  systemLoad := pure (some (givenAnswering 1))

theorem flickering_keepRanges : flickering.KeepRanges where
  totalMemory h := ⟨17179869184, eq_of_givenAnswering h, by decide⟩
  availableMemory h := ⟨8589934592, eq_of_givenAnswering h, by decide⟩
  systemLoad hreading h := by
    obtain rfl := Option.some.inj (Except.ok.inj (congrArg Prod.fst hreading))
    rw [eq_of_givenAnswering h]
    decide +kernel
  hardwareLoad h := by
    rw [eq_of_givenAnswering h]
    decide +kernel
  cpuPercent {o _} h := by
    rcases o with ⟨_ | waits, answers⟩
    · rw [eq_of_givenAnswering h]
      decide +kernel
    · cases h

/-- Calls of a system that fails twice to give a percentage for the first of them, and twice for the
snapshot, and answers for the snapshot and the last call only. -/
def flickeringCalls : List (Call Flicker) :=
  [⟨fun _ => ⟨2, false⟩, .loadAverage⟩, ⟨fun _ => ⟨2, true⟩, .snapshot⟩,
    ⟨fun _ => ⟨0, false⟩, .memoryUsage⟩, ⟨fun _ => ⟨0, true⟩, .memoryUsage⟩]

/-- No operation fails on such a system. Of its snapshot the first two parts come too early, and the
others are served, as is the last call, whatever failed in between. -/
theorem session_recovers_of_flickering :
    flickering.KeepRanges ∧
      (session (.system flickering) flickeringCalls (false, World.start ⟨2, false⟩)).1.map
          Except.toOption
        = [some (.reading unavailable),
          some (.snapshot ⟨unavailable, unavailable, .ofRatio false 16 1, .ofRatio false 1 1,
            .ofRatio false 1 2⟩),
          some (.reading unavailable), some (.reading (.ofRatio false 1 2))] ∧
      (∀ outcome ∈ (session (.system flickering) flickeringCalls
        (false, World.start ⟨2, false⟩)).1, outcome.isOk = true) ∧
      (Ledger.ofSession flickering flickeringCalls ⟨2, false⟩).2.Orderly ∧
      ∀ later, (session (.system flickering) later
          (session (.system flickering) flickeringCalls (false, World.start ⟨2, false⟩)).2).1
        = (session (served flickering) later
          (session (.system flickering) flickeringCalls
            (false, World.start ⟨2, false⟩)).2).1 := by
  obtain ⟨hreturns, ⟨-, -, horderly⟩, -, hserved, -⟩ :=
    session_recovers flickering_keepRanges flickeringCalls ⟨2, false⟩
  have hready : (session (.system flickering) flickeringCalls
      (false, World.start ⟨2, false⟩)).2.1 = true := by
    decide +kernel
  exact ⟨flickering_keepRanges, by decide +kernel, hreturns, horderly, (hserved hready).2⟩

end TenantHost.Monitor
