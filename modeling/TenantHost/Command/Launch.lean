import TenantHost.Command.Runner
import TenantHost.Text.Lines
/-!
# Launching programs

The executor that launches programs on the host. A program that ends with status zero gives its
output, as text with one kind of line end; any other end, and every failure to launch it that the
host reports, is a command fault.
-/

namespace TenantHost

/-- How a program ended, and what it wrote: a negative status is a signal. -/
structure Finished where
  status : Int
  stdout : List UInt8
  stderr : List UInt8

/-- Whether a fault says that something does not exist. -/
def Fault.isAbsence (fault : Fault) : Bool :=
  fault.family == .system && fault.kind == "FileNotFoundError"

/-- What a program wrote, as text. -/
def programText (bytes : List UInt8) : List Char :=
  Text.unifyNewlines (Text.Utf8.decodeLenient bytes)

/-- The output of a program that ended, if its status is zero. -/
def Finished.output (argv : List String) (finished : Finished) : Except Fault String :=
  if finished.status = 0 then .ok (String.ofList (programText finished.stdout))
  else
    let stderr := String.ofList (Text.trim (programText finished.stderr))
    .error (.command ⟨argv, .exited finished.status stderr⟩)

/-- What a failed launch means: a command fault if the host could not start the program. -/
def launchFault (argv : List String) (fault : Fault) : Fault :=
  if fault.isAbsence then .command ⟨argv, .notFound (some fault.toCause)⟩
  else if fault.family = .system then .command ⟨argv, .notLaunched fault.toCause⟩
  else fault

/-- The executor that launches programs. -/
def Executor.ofLauncher {σ : Type} (launch : List String → Action σ Finished) : Executor σ :=
  fun argv => do
    if argv = [] then Action.fail (.command ⟨[], .empty⟩)
    else
      World.note .commands .debug ("Executing command: '" ++ Command.line argv ++ "'")
      match ← (World.ask (launch argv)).attempt with
      | .ok finished => Action.ofExcept (finished.output argv)
      | .error fault => Action.fail (launchFault argv fault)

end TenantHost
