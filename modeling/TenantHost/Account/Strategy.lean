import TenantHost.Account.Records
import TenantHost.Account.NetTable
import TenantHost.Command.Runner
/-!
# Account strategies

Each platform family lists its accounts, names the group of an account, and creates an account in
its own way: Linux reads the account database, macOS and Windows ask a command. A platform without a
way of its own is treated as Linux.
-/

namespace TenantHost

/-- One command of the creation of an account. -/
structure Step where
  description : String
  command : String
  deriving DecidableEq, Repr

/-- How accounts are listed: from a database, one name a line, or from a table. -/
inductive AccountStrategy where
  | records (database : Path)
  | nameLines
  | netTable
  deriving DecidableEq, Repr

namespace Platform

/-- The name of a platform's strategy. -/
def strategyName : Platform → String
  | .linux => "LinuxAccountStrategy"
  | .macos => "MacAccountStrategy"
  | .windows => "WindowsAccountStrategy"
  | .other => "LinuxAccountStrategy"

/-- The strategy of a platform; only Linux has a database. -/
def strategy (platform : Platform) (database : Path) : AccountStrategy :=
  match platform with
  | .linux => .records database
  | .macos => .nameLines
  | .windows => .netTable
  | .other => .records database

/-- The command line whose output names the group of an account. -/
def groupCommand (platform : Platform) (user : String) : String :=
  match platform with
  | .windows => "net user " ++ user
  | _ => "groups"

/-- The group that the output of the group command names; nothing if that has no word. -/
def parseGroup (platform : Platform) (output : String) : Except Fault String :=
  match platform with
  | .windows => (Account.tableGroup output.toList).map String.ofList
  | _ => .ok (String.ofList ((Text.words output.toList).head?.getD []))

/-- The commands that create an account in a group, in order. -/
def creationSteps (platform : Platform) (user group : String) : List Step :=
  match platform with
  | .macos =>
    [⟨"create mac user", "sudo sysadminctl -addUser " ++ user ++ " -password " ++ user⟩,
      ⟨"append user to group", "sudo dseditgroup -o edit -a " ++ user ++ " -t user " ++ group⟩]
  | .windows =>
    [⟨"create windows user", "net user " ++ user ++ " /add"⟩,
      ⟨"append user to group", "net localgroup " ++ group ++ " " ++ user ++ " /add"⟩]
  | _ => [⟨"create linux user", "sudo useradd -g " ++ group ++ " " ++ user⟩]

/-- Says which strategy is used. -/
def noteStrategy {σ : Type} (platform : Platform) : Action (World σ) Unit :=
  World.note .accounts .debug
    ("Using " ++ platform.strategyName ++ " for platform " ++ platform.name)

end Platform

namespace AccountStrategy

variable {σ : Type}

/-- The names in a listing with one name a line. -/
def namesInLines (output : String) : List String :=
  if output = "" then [] else (Text.outputLines output.toList).map String.ofList

/-- The database of a strategy that has one. -/
def database? : AccountStrategy → Option Path
  | .records database => some database
  | _ => none

/-- The accounts of the host, in the order it reports them. -/
def listNames (strategy : AccountStrategy) (execute : Executor σ)
    (read : Path → Action σ (List UInt8)) :
    Action (World σ) (List String) :=
  match strategy with
  | .records database => do return Account.namesInRecords (← World.ask (read database))
  | .nameLines => do return namesInLines (← execute.runLine "dscl . list /users")
  | .netTable => do
    let output ← execute.runLine "net user"
    Action.ofExcept ((Account.tableNames output.toList).map fun names => names.map String.ofList)

end AccountStrategy

end TenantHost
