import TenantHost.Command.Launch
import TenantHost.Proofs.Text.Utf8
/-!
# What launching a program comes to

An executor that launches programs writes one line, and then its outcome is that of the host: a
program that ended is judged by its status, and a failure to launch it by its kind.
-/

namespace TenantHost.Executor

variable {σ : Type}

/-- The line about a command that is launched. -/
def launchLine (argv : List String) : Line :=
  ⟨.commands, .debug, "Executing command: '" ++ Command.line argv ++ "'", none⟩

/-- What the answer of a host to a launch means. -/
def launched (argv : List String) : Except Fault Finished → Except Fault String
  | .ok finished => finished.output argv
  | .error fault => .error (launchFault argv fault)

/-- **The equation of an executor that launches programs.** -/
theorem ofLauncher_apply (launch : List String → Action σ Finished) {argv : List String}
    (h : argv ≠ []) (w : World σ) :
    ofLauncher launch argv w
      = (launched argv (launch argv w.outside).1,
          ⟨(launch argv w.outside).2, w.journal ++ [launchLine argv], w.calls⟩) := by
  rcases hout : launch argv w.outside with ⟨fault | finished, after⟩ <;>
    simp [ofLauncher, h, hout, launched, launchLine]

/-- A program that ends with status zero gives its output with one kind of line end. -/
theorem launched_of_success (argv : List String) (stdout stderr : List UInt8) :
    launched argv (.ok ⟨0, stdout, stderr⟩) = .ok (String.ofList (programText stdout)) :=
  rfl

/-- A program that writes a text gives that text with one kind of line end. -/
theorem ofLauncher_of_text {launch : List String → Action σ Finished} {argv : List String}
    (h : argv ≠ []) {w : World σ} {text : List Char} {stderr : List UInt8} {o : σ}
    (hlaunch : launch argv w.outside = (.ok ⟨0, Text.Utf8.encode text, stderr⟩, o)) :
    ofLauncher launch argv w
      = (.ok (String.ofList (Text.unifyNewlines text)),
          ⟨o, w.journal ++ [launchLine argv], w.calls⟩) := by
  rw [ofLauncher_apply launch h, hlaunch, launched_of_success, programText,
    Text.Utf8.decodeLenient_encode]

end TenantHost.Executor
