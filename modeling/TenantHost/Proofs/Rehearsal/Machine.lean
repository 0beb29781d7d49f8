import TenantHost.Proofs.Command.Verdict
import TenantHost.Rehearsal.Machine
/-!
# What a rehearsed host does

A rehearsed host gives the answers it was made with, each list of them in order, and the last one
for ever after. It launches programs as a host does: what cannot be passed on is refused, what
cannot be started fails as a system fails, and a program that ran has changed the files and nothing
else.
-/

namespace TenantHost.Rehearsal

/-! ## Answers in turn -/

namespace Answers

variable {α : Type}

/-- The answers that are left after some were taken. -/
def skip : Nat → Answers α → Answers α
  | 0, answers => answers
  | n + 1, answers => skip n answers.take.2

/-- The answer that is given after some others: the one that stands there, or the last one. -/
def after (n : Nat) (answers : Answers α) : α :=
  ((answers.next :: answers.later)[n]?).getD
    ((answers.next :: answers.later).getLast (List.cons_ne_nil _ _))

/-- **Each list of answers is gone through once, and its last one is given for ever after.** -/
theorem take_skip (n : Nat) (answers : Answers α) : (skip n answers).take.1 = answers.after n := by
  induction n generalizing answers with
  | zero =>
    rcases answers with ⟨next, _ | ⟨first, rest⟩⟩ <;> rfl
  | succ n ih =>
    rw [skip, ih]
    rcases answers with ⟨next, _ | ⟨first, rest⟩⟩
    · cases n <;> rfl
    · rfl

end Answers

namespace Machine

/-- The machine after some readings of a metric. -/
def readTimes (metric : Metric) : Nat → Machine → Machine
  | 0, machine => machine
  | n + 1, machine => readTimes metric n (readMetric metric machine).2

/-- Readings of a metric take the answers that are laid down for it, and leave those for the others
where they are. -/
theorem metrics_readTimes (metric : Metric) (n : Nat) (machine : Machine) (other : Metric) :
    (readTimes metric n machine).metrics other
      = if other = metric then (machine.metrics metric).skip n else machine.metrics other := by
  induction n generalizing machine with
  | zero =>
    by_cases hsame : other = metric
    · rw [if_pos hsame, hsame]
      rfl
    · rw [if_neg hsame]
      rfl
  | succ n ih =>
    have hstep : ∀ other, (readMetric metric machine).2.metrics other
        = if other = metric then (machine.metrics metric).take.2 else machine.metrics other :=
      fun _ => rfl
    rw [readTimes, ih, hstep, hstep, if_pos rfl]
    by_cases hsame : other = metric
    · rw [if_pos hsame, if_pos hsame]
      rfl
    · rw [if_neg hsame, if_neg hsame, if_neg hsame]

/-- **A metric reads what is laid down for it, in order.** -/
theorem readMetric_readTimes (metric : Metric) (n : Nat) (machine : Machine) :
    (readMetric metric (readTimes metric n machine)).1 = (machine.metrics metric).after n := by
  have hread : ∀ machine : Machine,
      (readMetric metric machine).1 = (machine.metrics metric).take.1 := fun _ => rfl
  rw [hread, metrics_readTimes, if_pos rfl, Answers.take_skip]

/-! ## Launching -/

theorem unpassable_iff (directory : Option Path) (argv : List String) :
    Unpassable directory argv
      ↔ (argv.any isUnpassable || directory.any Files.isUnnameable) = true := by
  simp [Unpassable, isUnpassable, Files.isUnnameable, Option.any_eq_true]

/-- The failures of a rehearsed host are those of a system. -/
theorem family_of_launchDirectory {machine : Machine} {directory : Option Path} {fault : Fault}
    (h : machine.launchDirectory directory = .error fault) : fault.family = .system := by
  unfold launchDirectory at h
  split at h
  · cases h
  · split at h
    · cases h
      rfl
    · split at h
      · cases h
      · cases h
        rfl
      · cases h
        rfl

/-- How a launch ends: it is refused, it fails as a system fails, or the program ran. -/
inductive Launched (directory : Option Path) (argv : List String) (machine : Machine) :
    Except Fault Finished × Machine → Prop where
  | refused (h : Unpassable directory argv) :
      Launched directory argv machine (.error .embeddedNull, machine)
  | failed (fault : Fault) (h : ¬ Unpassable directory argv) (hfault : fault.family = .system) :
      Launched directory argv machine (.error fault, machine)
  | ran (place : Place) (target : Launching.Target) (h : ¬ Unpassable directory argv)
      (hplace : machine.launchDirectory directory = .ok place)
      (htarget : machine.targetOf place (Raw.ofText (argv.head?.getD "")) (argv.tail.map Raw.ofText)
        = .ok target) :
      Launched directory argv machine (.ok (perform machine.files place target).1,
        { machine with files := (perform machine.files place target).2 })

/-- **A program is refused, fails to start, or runs**; and it leaves the machine as it was but for
the files, and those, too, unless it ran. -/
theorem launch_launched (directory : Option Path) (argv : List String) (machine : Machine) :
    Launched directory argv machine (launch directory argv machine) := by
  have hstate : Action.state machine = (.ok machine, machine) := rfl
  rw [launch, Action.bind_ok hstate]
  by_cases hunpassable : Unpassable directory argv
  · rw [if_pos ((unpassable_iff directory argv).mp hunpassable)]
    exact .refused hunpassable
  · rw [if_neg (mt (unpassable_iff directory argv).mpr hunpassable)]
    -- the directory is looked up before the program is
    rcases hplace : machine.launchDirectory directory with fault | place
    · exact .failed fault hunpassable (family_of_launchDirectory hplace)
    · have hfound : (Action.ofExcept (.ok place) : Action Machine Place) machine
          = (.ok place, machine) := rfl
      rw [Action.bind_ok hfound]
      rcases htarget : machine.targetOf place (Raw.ofText (argv.head?.getD ""))
        (argv.tail.map Raw.ofText) with problem | target
      · exact .failed (.file problem (Text.quoted (argv.head?.getD ""))) hunpassable rfl
      · exact .ran place target hunpassable hplace htarget

/-- A rehearsed host launches programs as a host does. -/
def launcher (directory : Option Path) : Launcher Machine where
  directory := directory
  launch := launch directory
  refuses := fun argv machine hunpassable => by
    have hlaunched := launch_launched directory argv machine
    generalize launch directory argv machine = result at hlaunched ⊢
    cases hlaunched with
    | refused => rfl
    | failed _ hpassable => exact absurd hunpassable hpassable
    | ran _ _ hpassable => exact absurd hunpassable hpassable
  fails := fun argv machine fault hpassable hfault => by
    have hlaunched := launch_launched directory argv machine
    generalize launch directory argv machine = result at hlaunched hfault
    cases hlaunched with
    | refused hunpassable => exact absurd hunpassable hpassable
    | failed _ _ hsystem => exact Except.error.inj hfault ▸ hsystem
    | ran => cases hfault

end Machine

end TenantHost.Rehearsal
