import TenantHost.Account.Report
import TenantHost.Host.Basic
import TenantHost.Journal.Task
import TenantHost.Text.Quoted
/-!
# The account directory

Which accounts a host has, and the creation of missing ones. The host is asked on every call and
nothing is kept, apart from the name of the current user once it is known. Listing and creating are
meant not to fail: what goes wrong is written to the journal, and the answer is an empty list or
`false`.
-/

namespace TenantHost

/-- How the accounts of a host are managed. -/
structure Directory where
  platform : Platform
  sudoEnable : Bool
  database : Path
  deriving DecidableEq, Repr

/-- An action of a directory. Its own state is the name of the current user, once it is known. -/
abbrev DirectoryAction (σ α : Type) : Type :=
  Action (Option String × World σ) α

namespace Directory

variable {σ : Type}

/-- The database that the directory lists, where the platform has one. -/
def database? (directory : Directory) : Option Path :=
  (directory.platform.strategy directory.database).database?

/-- The log of directory work. -/
def log (task : Option TaskJournal) : TaskLog :=
  ⟨.users, task⟩

/-- Writes what the directory does. -/
def noteInfo (task : Option TaskJournal) (text : String) : DirectoryAction σ Unit :=
  ((log task).info text).onSecond

/-- Writes what went wrong in the directory. -/
def noteError (task : Option TaskJournal) (text : String) (about : Option Fault) :
    DirectoryAction σ Unit :=
  ((log task).error text about).onSecond

/-- The name of the current user: looked up until that succeeds once. -/
def currentUser (host : Host σ) : DirectoryAction σ String := do
  match (← Action.state).1 with
  | some user => pure user
  | none => do
    let user ← (World.ask host.userName).onSecond
    Action.update fun s => (some user, s.2)
    return user

@[simp] theorem currentUser_known (host : Host σ) (user : String) (w : World σ) :
    currentUser host (some user, w) = (.ok user, (some user, w)) :=
  rfl

/-- A command prefixed so that it runs as a tenant, if the directory is to do so and there is a
tenant. -/
def tenantCommand (sudoEnable : Bool) (tenant command : String) : String :=
  if !sudoEnable || tenant.isEmpty then command else Command.asTenant tenant command

/-! ## Listing -/

/-- The accounts of the host, in the order it reports them; none if they cannot be listed. -/
def listUsers (directory : Directory) (host : Host σ) (task : Option TaskJournal) :
    DirectoryAction σ (List String) := do
  let strategy := directory.platform.strategy directory.database
  match ← (strategy.listNames host.execute host.readFile).onSecond.attempt with
  | .ok names => pure names
  | .error fault => do
    noteError task ("Failed to list " ++ directory.platform.name ++ " users: " ++ fault.summary)
      (some fault)
    return []

/-- Whether the host reports an account. -/
def userExists (directory : Directory) (host : Host σ) (user : String)
    (task : Option TaskJournal) :
    DirectoryAction σ Bool := do
  return (← directory.listUsers host task).contains user

/-! ## Creating -/

/-- The group of the current user, which new accounts join; nothing if it cannot be read. -/
def resolveGroup (directory : Directory) (host : Host σ) (task : Option TaskJournal) :
    DirectoryAction σ String := do
  let user ← currentUser host
  let command := directory.platform.groupCommand user
  let output ← (host.execute.runLine command).onSecond
  match directory.platform.parseGroup output with
  | .ok group => pure group
  | .error fault => do
    noteError task ("Cannot resolve group from '" ++ command ++ "': " ++ fault.message) none
    return ""

/-- The group of the current user; not to have one is a fault. -/
def requireGroup (directory : Directory) (host : Host σ) (task : Option TaskJournal) :
    DirectoryAction σ String := do
  let group ← directory.resolveGroup host task
  if group.isEmpty then Action.fail (.noGroup (← currentUser host) directory.platform)
  else pure group

/-- Runs the steps in order up to the first failure. -/
def runSteps (execute : Executor σ) (task : Option TaskJournal) (user : String) :
    List Step → Action (World σ) (List StepOutcome)
  | [] => pure []
  | step :: rest => do
    (log task).info (step.description ++ " : " ++ step.command)
    match ← (execute.runLine step.command).attempt with
    | .ok output => return ⟨step, true, output, none⟩ :: (← runSteps execute task user rest)
    | .error fault => do
      (log task).error
        ("Step '" ++ step.description ++ "' failed for user " ++ user ++ ": " ++ fault.message)
        (some fault)
      return [⟨step, false, "", some fault.summary⟩]

/-- Says which steps were done and which one failed, if both is the case. -/
def notePartial (task : Option TaskJournal) (report : Report) : Action (World σ) Unit :=
  match report.partiallyApplied, report.failedStep with
  | true, some failed =>
    (log task).warning
      ("User " ++ report.user ++ " is partially provisioned: completed [" ++
        ", ".intercalate (report.completed.map Text.quoted) ++ "], failed '" ++
        failed.step.description ++ "'; nothing was rolled back")
  | _, _ => pure ()

/-- Creates an account and reports every step. -/
def provision (directory : Directory) (host : Host σ) (user : String) (task : Option TaskJournal) :
    DirectoryAction σ Report := do
  match ← (directory.requireGroup host task).attempt with
  | .error fault => do
    noteError task ("Cannot create user " ++ user ++ ": " ++ fault.summary) none
    return ⟨user, directory.platform, "", some fault.summary, [], []⟩
  | .ok group => do
    let planned := directory.platform.creationSteps user group
    noteInfo task ("create " ++ directory.platform.name ++ " os user : " ++ user)
    let outcomes ← (runSteps host.execute task user planned).onSecond
    let report : Report := ⟨user, directory.platform, group, none, planned, outcomes⟩
    (notePartial task report).onSecond
    return report

/-- Creates an account; whether that succeeded. -/
def createUser (directory : Directory) (host : Host σ) (user : String)
    (task : Option TaskJournal) :
    DirectoryAction σ Bool := do
  match ← (directory.provision host user task).attempt with
  | .ok report => pure report.succeeded
  | .error fault => do
    noteError task ("Failed to create user " ++ user ++ ": " ++ fault.message) (some fault)
    return false

/-- Creates an account unless the host reports it already; whether it exists then. -/
def ensureUser (directory : Directory) (host : Host σ) (user : String)
    (task : Option TaskJournal) :
    DirectoryAction σ Bool := do
  if ← directory.userExists host user task then pure true
  else
    let created ← directory.createUser host user task
    noteInfo task ("create user " ++ user ++ (if created then " success" else " fail"))
    return created

end Directory

end TenantHost
