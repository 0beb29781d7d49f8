import TenantHost.Proofs.Account.Group
/-!
# Listing accounts and ensuring one

An account that the host lists is not created again. One that it does not list is created, and then
it is written whether that succeeded. Each half of this is an equation of its own, so that whoever
knows what is listed knows which of the two a call comes down to.
-/

namespace TenantHost.Directory

variable {σ : Type}

/-- Listing the accounts of the host, which may fail. -/
def listing (directory : Directory) (host : Host σ) : DirectoryAction σ (List String) :=
  ((directory.platform.strategy directory.database).listNames host.execute host.readFile).onSecond

/-- Creating an account and writing whether that succeeded. -/
def createNoted (directory : Directory) (host : Host σ) (user : String)
    (task : Option TaskJournal) :
    DirectoryAction σ Bool := do
  let created ← directory.createUser host user task
  noteInfo task ("create user " ++ user ++ (if created then " success" else " fail"))
  return created

variable {directory : Directory} {host : Host σ} {task : Option TaskJournal} {user : String}
  {s t u : Option String × World σ} {names : List String}

/-! ## Listing -/

theorem listUsers_of_listing (h : directory.listing host s = (.ok names, t)) :
    directory.listUsers host task s = (.ok names, t) :=
  Action.bind_ok (Action.attempt_of h)

/-- Accounts that cannot be listed are written about, and none are named. -/
theorem listUsers_of_fault {fault : Fault} (h : directory.listing host s = (.error fault, t)) :
    directory.listUsers host task s
      = (noteError task ("Failed to list " ++ directory.platform.name ++ " users: "
        ++ fault.summary)
          (some fault) >>= fun _ => pure []) t :=
  Action.bind_ok (Action.attempt_of h)

theorem userExists_of_listed (h : directory.listUsers host task s = (.ok names, t)) :
    directory.userExists host user task s = (.ok (names.contains user), t) := by
  simp [userExists, h]

/-! ## Ensuring -/

theorem ensureUser_of_listed (h : directory.listUsers host task s = (.ok names, t))
    (hlisted : user ∈ names) : directory.ensureUser host user task s = (.ok true, t) := by
  simp [ensureUser, userExists_of_listed h, hlisted]

theorem ensureUser_of_unlisted (h : directory.listUsers host task s = (.ok names, t))
    (hunlisted : user ∉ names) :
    directory.ensureUser host user task s = directory.createNoted host user task t := by
  simp [ensureUser, createNoted, userExists_of_listed h, hunlisted]

/-- Where the task's journal refuses no line, the line about the account changes nothing but the
journal. -/
theorem exists_createNoted_apply (htask : Accepting task) {made : Bool}
    (h : directory.createUser host user task t = (.ok made, u)) :
    ∃ journal, directory.createNoted host user task t = (.ok made,
      (u.1, { u.2 with journal })) := by
  obtain ⟨journal, hnote⟩ := exists_noteInfo_apply htask
    ("create user " ++ user ++ (if made then " success" else " fail")) u
  exact ⟨journal, by simp [createNoted, h, hnote]⟩

end TenantHost.Directory
