import TenantHost.Rehearsal.Program.Characters
import TenantHost.Rehearsal.Program.Edit
import TenantHost.Rehearsal.Program.Launchers
import TenantHost.Rehearsal.Program.Lines
import TenantHost.Rehearsal.Program.Search
import TenantHost.Rehearsal.Program.Values
/-!
# The programs of a host

What each program does that stands in the usual directory of programs.
-/

namespace TenantHost.Rehearsal.Program

/-- Writes a line. -/
def say (line : Raw) : Job Nat := do
  Job.put (line ++ "\n")
  return 0

/-- Writes what its arguments become. -/
def echo : Job Nat := do
  Job.put (echoProgram (← read).arguments)
  return 0

/-- Tells whose account everything runs under: its number, or its name. -/
def id : Job Nat :=
  Job.withOptions "ugGnrz" "" [("user", 'u'), ("group", 'g'), ("groups", 'G'), ("name", 'n')] 1
    fun options => do
    match options.others.find? (· ≠ "root") with
    | some name => Job.fail (curlyQuoted name ++ ": no such user") 1
    | none =>
      if options.has 'u' || options.has 'g' || options.has 'G' then
        say (if options.has 'n' then "root" else "0")
      else say "uid=0(root) gid=0(root) groups=0(root)"

/-- Writes where programs are that go by some names. -/
def which : Job Nat := do
  let call ← read
  let files ← Job.files
  let fronts := ((call.environment.lookup "PATH").map Launching.searchPath).getD []
  Job.forEach call.arguments fun name => do
    let isProgram (path : Raw) : Bool :=
      (files.find call.directory path).toOption.any fun entry =>
        !entry.isDirectory && isLaunchMode entry.mode
    let paths := if name.toList.contains '/' then [name] else fronts.map fun front =>
      Launching.within front name
    match paths.find? isProgram with
    | some path => say path
    | none => return 1

/-- What the programs do that launch no others, in the order of their names. -/
def simpleJobs : List (Raw × Job Nat) :=
  [("[", decide true), ("basename", basename), ("cat", cat), ("chmod", chmod), ("cp", cp),
    ("cut", cut),
    ("dirname", dirname), ("echo", echo), ("expr", expr), ("false", return 1), ("find", find),
      ("fold", fold),
    ("grep", grep), ("head", head), ("id", id), ("ln", ln), ("ls", ls),
    ("mkdir", mkdir), ("mv", mv), ("nl", nl), ("nproc", say "1"), ("od", od), ("paste", paste),
    ("printenv", printenv), ("printf", printfProgram), ("pwd", pwd), ("readlink", readlink),
    ("realpath", realpath), ("rev", rev), ("rm", rm), ("rmdir", rmdir), ("sed", Edit.sed),
      ("seq", seq), ("sleep", sleep),
    ("sort", sort), ("tac", tac), ("tail", tail), ("tee", tee), ("test", decide false),
      ("touch", touch),
    ("tr", tr), ("true", return 0), ("uname", uname), ("uniq", uniq), ("wc", wc), ("which", which),
    ("whoami", say "root"), ("yes", yes)]

/-- What a program does; `perform` carries out the programs that it launches. -/
def jobOf (perform : Raw → Call → OnSystem Ending) (name : Raw) : Job Ending :=
  match name with
  | "env" => env perform
  | "nohup" => nohup perform
  | "timeout" => timeout perform
  | "xargs" => xargs perform
  | name => do
    match simpleJobs.lookup name with
    | some job => return .exited (← job)
    | none => return .exited 0

end TenantHost.Rehearsal.Program
