import TenantHost.Value
import TenantHost.Platform.Basic
import TenantHost.Path
import TenantHost.Text.Utf8
/-!
# Faults

Why an operation failed: a cause of this library, or a failure of an outside party, which is known
by its kind and message alone. `Fault.kind` and `Fault.message` are the wording of every cause. So
every fault has a message: a failure that itself fails when it is asked what it says is not among
them.
-/

namespace TenantHost

/-- A failure seen from outside: its kind and what it says. -/
structure Cause where
  kind : String
  message : String
  deriving DecidableEq, Repr

/-- Kind and message in one line. -/
def Cause.summary (cause : Cause) : String :=
  cause.kind ++ ": " ++ cause.message

/-! ## Commands -/

/-- Why a command gave no output: it had no word, its program was not found or could not be
launched, it ended with a status other than zero, something unexpected happened on the way, or an
executor says so. -/
inductive CommandProblem where
  | empty
  | notFound (cause : Option Cause)
  | notLaunched (cause : Cause)
  | exited (status : Int) (stderr : String)
  | unexpected (cause : Cause)
  | reported (message : String) (status : Option Int) (stderr : String)
  deriving DecidableEq, Repr

/-- A command that gave no output. -/
structure CommandFault where
  argv : List String
  problem : CommandProblem
  deriving DecidableEq, Repr

namespace CommandFault

/-- The command as one line. -/
def line (fault : CommandFault) : String :=
  " ".intercalate fault.argv

/-- The program of the command. -/
def program (fault : CommandFault) : String :=
  fault.argv.head?.getD ""

/-- The wording of a command fault. -/
def message (fault : CommandFault) : String :=
  match fault.problem with
  | .empty => "Cannot execute an empty command"
  | .notFound _ => "Command not found: " ++ fault.program
  | .notLaunched cause => "Failed to launch '" ++ fault.program ++ "': " ++ cause.summary
  | .exited status stderr =>
    "Command '" ++ fault.line ++ "' exited with status " ++ toString status ++ ": " ++ stderr
  | .unexpected cause => "Unexpected error while running '" ++ fault.line ++ "': " ++ cause.summary
  | .reported message _ _ => message

/-- The status the command ended with, if it ran. -/
def status? (fault : CommandFault) : Option Int :=
  match fault.problem with
  | .exited status _ => some status
  | .reported _ status _ => status
  | _ => none

/-- What the command wrote on its error stream, if it ran. -/
def stderr (fault : CommandFault) : String :=
  match fault.problem with
  | .exited _ stderr => stderr
  | .reported _ _ stderr => stderr
  | _ => ""

/-- The failure behind a command fault. -/
def cause? (fault : CommandFault) : Option Cause :=
  match fault.problem with
  | .notFound cause => cause
  | .notLaunched cause => some cause
  | .unexpected cause => some cause
  | _ => none

end CommandFault

/-! ## Settings -/

/-- What is asked of a setting and was not met. -/
inductive Requirement where
  | number
  | atLeast (bound : Number) (found : Double)
  | atMost (bound : Number) (found : Double)
  | boolean
  | nonEmptyText
  | table
  | reported (message : String)

/-- A setting that does not meet a requirement, with the value as it was given. -/
structure ValidationFault where
  requirement : Requirement
  field : Option String
  value : Value

/-- The wording of a validation fault. -/
def ValidationFault.message (fault : ValidationFault) : String :=
  let field := fault.field.getD ""
  match fault.requirement with
  | .number => field ++ " must be a valid number, got " ++ fault.value.display
  | .atLeast bound found => field ++ " must be >= " ++ bound.text ++ ", got " ++ found.text
  | .atMost bound found => field ++ " must be <= " ++ bound.text ++ ", got " ++ found.text
  | .boolean => field ++ " must be a boolean, got " ++ fault.value.literal
  | .nonEmptyText => field ++ " must be a non-empty string"
  | .table => field ++ " must be a table"
  | .reported message => message

/-- Why the wording of a validation fault cannot be written: what it shows cannot be shown. -/
def ValidationFault.showProblem? (fault : ValidationFault) : Option Value.ShowProblem :=
  match fault.requirement with
  | .number => fault.value.displayProblem?
  | .boolean => fault.value.literalProblem?
  | .atLeast bound _ => (Value.ofNumber bound).displayProblem?
  | .atMost bound _ => (Value.ofNumber bound).displayProblem?
  | _ => none

/-! ## Files -/

/-- Why the host refuses to work on a file or to launch a program. -/
inductive FileProblem where
  | missing
  | tooLongArgument
  | badFormat
  | permission
  | present
  | notDirectory
  | isDirectory
  | invalid
  | tooLongName
  | notEmpty
  | tooManyLinks
  deriving DecidableEq, Repr

/-- Kind, number and wording of a file problem. -/
def FileProblem.description : FileProblem → String × Nat × String
  | .missing => ("FileNotFoundError", 2, "No such file or directory")
  | .tooLongArgument => ("OSError", 7, "Argument list too long")
  | .badFormat => ("OSError", 8, "Exec format error")
  | .permission => ("PermissionError", 13, "Permission denied")
  | .present => ("FileExistsError", 17, "File exists")
  | .notDirectory => ("NotADirectoryError", 20, "Not a directory")
  | .isDirectory => ("IsADirectoryError", 21, "Is a directory")
  | .invalid => ("OSError", 22, "Invalid argument")
  | .tooLongName => ("OSError", 36, "File name too long")
  | .notEmpty => ("OSError", 39, "Directory not empty")
  | .tooManyLinks => ("OSError", 40, "Too many levels of symbolic links")

/-- The wording of a file problem by itself. -/
def FileProblem.wording (problem : FileProblem) : String :=
  problem.description.2.2

/-- A file problem with what it is about. -/
def FileProblem.message (problem : FileProblem) (subject : String) : String :=
  "[Errno " ++ toString problem.description.2.1 ++ "] " ++ problem.wording ++ ": " ++ subject

/-- The wording of a failed strict reading. -/
def Text.Utf8.DecodeError.message (error : Text.Utf8.DecodeError) : String :=
  let place :=
    match error.bytes with
    | [b] =>
      "byte 0x" ++ String.ofList (Text.hex 2 b.toNat) ++ " in position " ++ toString error.position
    | bytes => "bytes in position " ++ toString error.position ++ "-" ++
        toString (error.position + bytes.length - 1)
  let reason :=
    match error.reason with
    | .badStart => "invalid start byte"
    | .badContinuation => "invalid continuation byte"
    | .truncated => "unexpected end of data"
  "'utf-8' codec can't decode " ++ place ++ ": " ++ reason

/-! ## All faults -/

/-- What an outside failure counts as where some failures are expected: a failure of the operating
system, of a sensor, a reading that does not exist, or anything else. -/
inductive Family where
  | system
  | sensor
  | absent
  | other
  deriving DecidableEq, Repr

/-- Why an operation failed. -/
inductive Fault where
  | command (fault : CommandFault)
  | validation (fault : ValidationFault)
  | noGroup (user : String) (platform : Platform)
  | unreadableTable (listing : String)
  | unreadableGroup (line : Nat)
  | file (problem : FileProblem) (subject : String)
  | absentFile (description : String) (path : Path)
  | embeddedNull
  | undecodable (error : Text.Utf8.DecodeError)
  | malformedDocument (impossibleDate : Bool)
  | nestedTooDeep
  | tooManyDigits (count : Option Nat)
  | tooDeepToShow
  | notATable (typeName : String)
  | overflow (limit : Overflow)
  | roundingRefused
  | beyondLine
  | noLoadAverage
  | outside (family : Family) (kind message : String)

namespace Fault

/-- The kind of a fault. -/
def kind : Fault → String
  | .command _ => "CommandExecutionError"
  | .validation _ => "ValidationError"
  | .noGroup _ _ => "GroupResolutionError"
  | .unreadableTable _ => "UnsupportedPlatformParse"
  | .unreadableGroup _ => "UnsupportedPlatformParse"
  | .file problem _ => problem.description.1
  | .absentFile _ _ => "FileNotFoundError"
  | .embeddedNull => "ValueError"
  | .undecodable _ => "UnicodeDecodeError"
  | .malformedDocument _ => "TOMLDecodeError"
  | .nestedTooDeep => "RecursionError"
  | .tooManyDigits _ => "ValueError"
  | .tooDeepToShow => "RecursionError"
  | .notATable _ => "AttributeError"
  | .overflow _ => "OverflowError"
  | .roundingRefused => "InvalidOperation"
  | .beyondLine => "IndexError"
  | .noLoadAverage => "OSError"
  | .outside _ kind _ => kind

/-- What a fault says. -/
def message : Fault → String
  | .command fault => fault.message
  | .validation fault => fault.message
  | .noGroup user platform => "No group found for current user " ++ user ++ " on " ++ platform.name
  | .unreadableTable listing => "Could not locate the account table in '" ++ listing ++ "' output"
  | .unreadableGroup line =>
    "Group line " ++ toString line ++ " missing or malformed in 'net user' output"
  | .file problem subject => problem.message subject
  | .absentFile description path => description ++ " not found: " ++ path.text
  | .embeddedNull => "embedded null byte"
  | .undecodable error => error.message
  | .malformedDocument _ => "<toml>"
  | .nestedTooDeep => "maximum recursion depth exceeded"
  | .tooManyDigits count =>
    "Exceeds the limit (4300 digits) for integer string conversion" ++
      (count.map fun n => ": value has " ++ toString n ++ " digits").getD "" ++
      "; use sys.set_int_max_str_digits() to increase the limit"
  | .tooDeepToShow => "maximum recursion depth exceeded while getting the repr of an object"
  | .notATable typeName => "'" ++ typeName ++ "' object has no attribute 'get'"
  | .overflow limit => limit.message
  | .roundingRefused => "[<class 'decimal.InvalidOperation'>]"
  | .beyondLine => "string index out of range"
  | .noLoadAverage => "os.getloadavg() is not available on this platform"
  | .outside _ _ message => message

/-- A fault as the cause of another one. -/
def toCause (fault : Fault) : Cause :=
  ⟨fault.kind, fault.message⟩

/-- Kind and message in one line. -/
def summary (fault : Fault) : String :=
  fault.toCause.summary

/-- What a fault counts as where some failures are expected. -/
def family : Fault → Family
  | .file _ _ => .system
  | .absentFile _ _ => .system
  | .noLoadAverage => .system
  | .notATable _ => .absent
  | .outside family _ _ => family
  | _ => .other

/-- The kind of the failure behind a fault. -/
def causeKind? : Fault → Option String
  | .command fault => fault.cause?.map Cause.kind
  | .unreadableTable _ => some "IndexError"
  | .unreadableGroup _ => some "IndexError"
  | .malformedDocument true => some "ValueError"
  | _ => none

/-- The fault of having to show what cannot be shown. -/
def ofShowProblem : Value.ShowProblem → Fault
  | .tooManyDigits => .tooManyDigits none
  | .tooDeep => .tooDeepToShow

/-- The fault of a setting that is refused; if that cannot be worded, there is another one. -/
def refusal (fault : ValidationFault) : Fault :=
  match fault.showProblem? with
  | none => .validation fault
  | some problem => ofShowProblem problem

/-- The outside failure of a kind. -/
def ofKind (kind message : String) : Fault :=
  if kind = "psutil.Error" then .outside .sensor "Error" message
  else
    let system := ["OSError", "FileNotFoundError", "PermissionError", "IsADirectoryError",
      "NotADirectoryError", "TimeoutError", "ConnectionError"]
    let family := if kind ∈ system then .system else if kind = "AttributeError" then
        .absent else .other
    .outside family kind message

end Fault

end TenantHost
