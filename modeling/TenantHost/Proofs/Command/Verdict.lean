import TenantHost.Proofs.Command.Launch
import TenantHost.Proofs.Command.Runner
/-!
# What becomes of a launch

An executor that launches programs relies on what its host answers: the host refuses what holds a
null character, or it fails as a system does, or the program ran to its end. A program that ended is
judged by its status, and a system that fails to start one gives a command fault without a status.
The refusal of a null character is passed on as it is: the commands that fail with command faults
alone are exactly those without one.
-/

namespace TenantHost

variable {σ : Type}

/-- Whether a command cannot be passed on to a host: an argument holds a null character, or a name
on the way to its directory does. -/
def Unpassable (directory : Option Path) (argv : List String) : Prop :=
  (∃ argument ∈ argv, '\x00' ∈ argument.toList) ∨
    ∃ path, directory = some path ∧ ∃ name ∈ path.names, '\x00' ∈ name.toList

instance (directory : Option Path) (argv : List String) : Decidable (Unpassable directory argv) :=
  match directory with
  | none =>
    decidable_of_iff (∃ argument ∈ argv, '\x00' ∈ argument.toList) (by simp [Unpassable])
  | some path =>
    decidable_of_iff ((∃ argument ∈ argv, '\x00' ∈ argument.toList) ∨
      ∃ name ∈ path.names, '\x00' ∈ name.toList) (by simp [Unpassable])

/-- How a host launches programs in a directory: it refuses what cannot be passed on to it, and else
it fails as a system does or tells how the program ended. -/
structure Launcher (σ : Type) where
  directory : Option Path
  launch : List String → Action σ Finished
  refuses : ∀ argv o, Unpassable directory argv → (launch argv o).1 = .error .embeddedNull
  fails : ∀ argv o fault, ¬ Unpassable directory argv → (launch argv o).1 = .error fault →
    fault.family = .system

/-- The fault of a command that did not start: it names the command, and no status. -/
def Fault.IsUnstarted (argv : List String) (fault : Fault) : Prop :=
  ∃ command : CommandFault, fault = .command command ∧ command.argv = argv ∧
    command.status? = none

/-- The fault of a command that ended with a status: it names the command, the status, and what was
written about it. -/
def Fault.IsEnded (argv : List String) (finished : Finished) (fault : Fault) : Prop :=
  ∃ command : CommandFault, fault = .command command ∧ command.argv = argv ∧
    command.status? = some finished.status ∧
      command.stderr = String.ofList (Text.trim (programText finished.stderr))

theorem Fault.IsUnstarted.isCommand {argv : List String} {fault : Fault}
    (h : fault.IsUnstarted argv) :
    fault.IsCommand := by
  obtain ⟨command, rfl, -⟩ := h
  exact ⟨command, rfl⟩

theorem Fault.IsEnded.isCommand {argv : List String} {finished : Finished} {fault : Fault}
    (h : fault.IsEnded argv finished) : fault.IsCommand := by
  obtain ⟨command, rfl, -⟩ := h
  exact ⟨command, rfl⟩

/-! ## Answers and outcomes -/

namespace Executor

theorem ofLauncher_of_empty (launch : List String → Action σ Finished) (w : World σ) :
    ofLauncher launch [] w = (.error (.command ⟨[], .empty⟩), w) := by
  rw [ofLauncher, if_pos rfl]
  rfl

theorem outcome_ofLauncher (launch : List String → Action σ Finished) {argv : List String}
    (h : argv ≠ [])
    (w : World σ) : (ofLauncher launch argv w).1 = launched argv (launch argv w.outside).1 := by
  rw [ofLauncher_apply launch h]

/-- A launched program gives its output just if its status is zero. -/
theorem launched_eq_ok_iff {argv : List String} {answer : Except Fault Finished} {text : String} :
    launched argv answer = .ok text ↔
      ∃ finished, answer = .ok finished ∧ finished.status = 0 ∧
        text = String.ofList (programText finished.stdout) := by
  constructor
  · intro h
    cases answer with
    | error fault => cases h
    | ok finished =>
      refine ⟨finished, rfl, ?_⟩
      simp only [launched, Finished.output] at h
      split at h
      · next hzero => exact ⟨hzero, (Except.ok.inj h).symm⟩
      · cases h
  · rintro ⟨finished, rfl, hzero, rfl⟩
    rw [launched, Finished.output, if_pos hzero]

/-- Any other status is a fault. -/
theorem launched_of_status_ne_zero (argv : List String) {finished : Finished}
    (h : finished.status ≠ 0) :
    ∃ fault, launched argv (.ok finished) = .error fault ∧ fault.IsEnded argv finished := by
  let stderr := String.ofList (Text.trim (programText finished.stderr))
  refine ⟨.command ⟨argv, .exited finished.status stderr⟩, ?_, _, rfl, rfl, rfl, rfl⟩
  rw [launched, Finished.output, if_neg h]

/-- A failure of the system is the fault of a command that did not start. -/
theorem launchFault_of_system (argv : List String) {fault : Fault} (h : fault.family = .system) :
    (launchFault argv fault).IsUnstarted argv := by
  by_cases habsent : fault.isAbsence = true
  · rw [launchFault, if_pos habsent]
    exact ⟨_, rfl, rfl, rfl⟩
  · rw [launchFault, if_neg habsent, if_pos h]
    exact ⟨_, rfl, rfl, rfl⟩

/-- Where only systems fail, launched programs fail with command faults only. -/
theorem isCommand_of_launched {argv : List String} {answer : Except Fault Finished} {fault : Fault}
    (hsystem : ∀ failure, answer = .error failure → failure.family = .system)
    (hfault : launched argv answer = .error fault) : fault.IsCommand := by
  cases answer with
  | error failure =>
    obtain rfl := Except.error.inj hfault
    exact (launchFault_of_system argv (hsystem failure rfl)).isCommand
  | ok finished =>
    have hstatus : finished.status ≠ 0 := by
      intro hzero
      rw [launched_eq_ok_iff.mpr ⟨finished, rfl, hzero, rfl⟩] at hfault
      cases hfault
    obtain ⟨ended, hended, hcommand⟩ := launched_of_status_ne_zero argv hstatus
    obtain rfl := Except.error.inj (hended.symm.trans hfault)
    exact hcommand.isCommand

end Executor

/-! ## Launchers -/

namespace Launcher

/-- The executor that launches programs this way. -/
abbrev executor (launcher : Launcher σ) : Executor σ :=
  Executor.ofLauncher launcher.launch

/-- What cannot be passed on is refused, and the refusal is no command fault. -/
theorem outcome_of_unpassable (launcher : Launcher σ) {argv : List String} (hargv : argv ≠ [])
    (h : Unpassable launcher.directory argv) (w : World σ) :
    (launcher.executor argv w).1 = .error .embeddedNull := by
  rw [Executor.outcome_ofLauncher launcher.launch hargv, launcher.refuses argv w.outside h]
  rfl

/-- Everything else that did not start gives a command fault. -/
theorem outcome_of_unstarted (launcher : Launcher σ) {argv : List String} {w : World σ}
    (h : argv = [] ∨ ¬ Unpassable launcher.directory argv ∧
      ∃ fault, (launcher.launch argv w.outside).1 = .error fault) :
    ∃ fault, (launcher.executor argv w).1 = .error fault ∧ fault.IsUnstarted argv := by
  by_cases hargv : argv = []
  · rw [hargv, executor, Executor.ofLauncher_of_empty]
    exact ⟨_, rfl, _, rfl, rfl, rfl⟩
  · obtain ⟨hpassable, fault, hfault⟩ := h.resolve_left hargv
    refine ⟨launchFault argv fault, ?_, ?_⟩
    · rw [Executor.outcome_ofLauncher launcher.launch hargv, hfault]
      rfl
    · exact Executor.launchFault_of_system argv
        (launcher.fails argv w.outside fault hpassable hfault)

/-- What can be passed on fails with a command fault, if at all. -/
theorem isCommand_of_passable (launcher : Launcher σ) {argv : List String} {w : World σ}
    {fault : Fault} (hpassable : argv = [] ∨ ¬ Unpassable launcher.directory argv)
    (hfault : (launcher.executor argv w).1 = .error fault) : fault.IsCommand := by
  by_cases hargv : argv = []
  · rw [hargv, executor, Executor.ofLauncher_of_empty] at hfault
    exact ⟨_, (Except.error.inj hfault).symm⟩
  · rw [Executor.outcome_ofLauncher launcher.launch hargv] at hfault
    refine Executor.isCommand_of_launched (fun failure hfailure => ?_) hfault
    exact launcher.fails argv w.outside failure (hpassable.resolve_left hargv) hfailure

/-- The commands that fail with command faults alone are those that can be passed on. -/
theorem isCommand_iff_passable (launcher : Launcher σ) (argv : List String) (w : World σ) :
    (∀ fault, (launcher.executor argv w).1 = .error fault → fault.IsCommand) ↔
      argv = [] ∨ ¬ Unpassable launcher.directory argv := by
  refine ⟨fun h => ?_, fun hpassable fault => launcher.isCommand_of_passable hpassable⟩
  by_cases hargv : argv = []
  · exact .inl hargv
  · right
    intro hunpassable
    obtain ⟨command, hcommand⟩ := h _ (launcher.outcome_of_unpassable hargv hunpassable w)
    cases hcommand

/-- **What becomes of a launch.** The output is given just if the program ran and ended with status
zero; any other status is a command fault with it; what did not start is a command fault without
one, unless it held a null character, for then the host's refusal is passed on. -/
theorem outcome_settled (launcher : Launcher σ) (argv : List String) (w : World σ) :
    let answer := (launcher.launch argv w.outside).1
    let outcome := (launcher.executor argv w).1
    (∀ text, outcome = .ok text ↔ argv ≠ [] ∧ ∃ finished, answer = .ok finished ∧
      finished.status = 0 ∧
      text = String.ofList (programText finished.stdout)) ∧
    (∀ finished, argv ≠ [] → answer = .ok finished → finished.status ≠ 0 →
      ∃ fault, outcome = .error fault ∧ fault.IsEnded argv finished) ∧
    ((argv = [] ∨ (¬ Unpassable launcher.directory argv ∧
      ∃ fault, answer = .error fault)) →
      ∃ fault, outcome = .error fault ∧ fault.IsUnstarted argv) ∧
    (argv ≠ [] → Unpassable launcher.directory argv → outcome = .error .embeddedNull) ∧
    ((∀ fault, outcome = .error fault → fault.IsCommand) ↔
      argv = [] ∨ ¬ Unpassable launcher.directory argv) := by
  refine ⟨fun text => ?_, fun finished hargv hanswer hstatus => ?_, launcher.outcome_of_unstarted,
    fun hargv hunpassable => launcher.outcome_of_unpassable hargv hunpassable w,
    launcher.isCommand_iff_passable argv w⟩
  · by_cases hargv : argv = []
    · rw [hargv, executor, Executor.ofLauncher_of_empty]
      simp
    · rw [Executor.outcome_ofLauncher launcher.launch hargv, Executor.launched_eq_ok_iff]
      simp only [hargv, ne_eq, not_false_eq_true, true_and]
  · rw [Executor.outcome_ofLauncher launcher.launch hargv, hanswer]
    exact Executor.launched_of_status_ne_zero argv hstatus

/-- A host on which every program is ended by signal 9, after it wrote a word between blanks. -/
def killing : Launcher Unit where
  directory := none
  launch := fun argv o =>
    (if Unpassable none argv then .error .embeddedNull
      else .ok ⟨-9, [], [0x20, 0x6E, 0x6F, 0x0D, 0x0A]⟩, o)
  refuses := fun _ _ hunpassable => if_pos hunpassable
  fails := fun _ _ _ hpassable hfault => by
    rw [if_neg hpassable] at hfault
    cases hfault

theorem outcome_settled_of_killing :
    killing.launch ["sh", "-c", "kill -9 $$"] ()
        = (.ok ⟨-9, [], [0x20, 0x6E, 0x6F, 0x0D, 0x0A]⟩, ()) ∧
      ∃ command : CommandFault,
        (killing.executor ["sh", "-c", "kill -9 $$"] (World.start ())).1 = .error
          (.command command) ∧
          command.argv = ["sh", "-c", "kill -9 $$"] ∧ command.status? = some (-9) ∧
            command.stderr = "no" := by
  obtain ⟨-, hended, -⟩ := killing.outcome_settled ["sh", "-c", "kill -9 $$"] (World.start ())
  obtain ⟨fault, hfault, command, rfl, hargv, hstatus, hstderr⟩ :=
    hended ⟨-9, [], [0x20, 0x6E, 0x6F, 0x0D, 0x0A]⟩ (by decide) rfl (by decide)
  exact ⟨rfl, command, hfault, hargv, hstatus, hstderr.trans (by decide)⟩

/-- A launch that fails, and not with a command fault: an argument holds a null character. -/
theorem outcome_of_nullArgument :
    (killing.executor ["echo", "a\x00b"] (World.start ())).1 = .error .embeddedNull ∧
      ¬ Fault.embeddedNull.IsCommand := by
  have hunpassable : Unpassable killing.directory ["echo", "a\x00b"] :=
    .inl ⟨"a\x00b", by decide, by decide⟩
  refine ⟨killing.outcome_of_unpassable (by decide) hunpassable _, ?_⟩
  rintro ⟨command, hcommand⟩
  cases hcommand

end Launcher

end TenantHost
