import TenantHost.Rehearsal.Shell.Expansion
/-!
# Redirections

Descriptors are led to files, to texts, and to where other descriptors lead. The words of all
redirections of a command get their values first; the files are opened one after the other then.
-/

namespace TenantHost.Rehearsal.Shell

/-- A redirection whose words have their values. -/
inductive Lead where
  | file (descriptor : Nat) (opening : Opening) (path : Raw)
  | copy (descriptor source : Nat)
  | close (descriptor : Nat)
  | document (descriptor : Nat) (body : Raw)

/-- The wording of a file that cannot be opened. -/
def openingWording (creates : Bool) (path : Raw) (problem : FileProblem) : Raw :=
  let reason :=
    if problem = .missing ∨ problem = .notDirectory then
      if creates then "Directory nonexistent" else "No such file"
    else problem.wording
  (if creates then "cannot create " else "cannot open ") ++ path ++ ": " ++ reason

/-- Leads a descriptor to a stream. -/
def setDescriptor (descriptor stream : Nat) : Run Unit :=
  update fun shell =>
    { shell with descriptors := alter shell.descriptors descriptor fun _ => stream }

/-- Opens a stream and leads a descriptor to it. -/
def openAt (descriptor : Nat) (stream : Stream) : Run Unit := do
  setDescriptor descriptor (← onSystem (System.openStream stream))

/-- What a redirection asks for, with the values of its words. -/
def leadOf (substitute : Command → Run Raw) : Redirect → Run Lead
  | .file descriptor opening target => do
    return .file descriptor opening (← text substitute target)
  | .copy descriptor target => do
    let source ← text substitute target
    match source.toList with
    | ['-'] => return .close descriptor
    | [d] =>
      if d.isDigit then return .copy descriptor (d.toNat - '0'.toNat)
      else refuse "Syntax error: Bad fd number"
    | _ => refuse "Syntax error: Bad fd number"
  | .document descriptor body => do
    let glyphs ← glyphsFrom substitute body
    return .document descriptor ((← get).wholeText glyphs)

/-- Opens a file that is read. -/
def openToRead (descriptor : Nat) (path : Raw) : Run Unit := do
  match ← locate true path with
  | .error problem => refuse (openingWording false path problem)
  | .ok place =>
    match (← get).system.files.entryAt? place with
    | none => refuse (openingWording false path .missing)
    | some (.directory _) => openAt descriptor .directory
    | some (.device device) => openAt descriptor (.device device)
    | some _ => openAt descriptor (.file place 0 false)

/-- Opens a file that is written. -/
def openToWrite (descriptor : Nat) (opening : Opening) (path : Raw) : Run Unit := do
  match ← locate true path with
  | .error problem => refuse (openingWording true path problem)
  | .ok place =>
    let shell ← get
    match shell.system.files.entryAt? place with
    | some (.directory _) => refuse (openingWording true path .isDirectory)
    | some (.device device) => openAt descriptor (.device device)
    | some _ =>
      if opening = .write ∧ shell.hasFlag 'C' then refuse (openingWording true path .present)
      else
        if opening = .write ∨ opening = .overwrite then
          onSystem (System.mapFiles fun files => files.write place "")
        openAt descriptor (.file place 0 (opening = .append))
    | none =>
      onSystem (System.mapFiles fun files => files.write place "")
      openAt descriptor (.file place 0 (opening = .append))

/-- Carries out a redirection. -/
def follow : Lead → Run Unit
  | .file descriptor .read path => openToRead descriptor path
  | .file descriptor opening path => openToWrite descriptor opening path
  | .copy descriptor source => do
    match (← get).descriptors.lookup source with
    | some stream => setDescriptor descriptor stream
    | none => refuse (toString source ++ ": Bad file descriptor")
  | .close descriptor =>
    update fun shell => { shell with descriptors := shell.descriptors.filter (·.1 ≠ descriptor) }
  | .document descriptor body => openAt descriptor (.pipe body)

/-- Carries out redirections; `none` if they all could be, and a status otherwise. -/
def followAll (leads : List Lead) : Run (Option Nat) := do
  match ← ExceptT.lift (leads.forM follow).run with
  | .ok _ => return none
  | .error .failed => return some (← get).status
  | .error reason => leave reason

/-- The values of the words of redirections. -/
def leadsOf (substitute : Command → Run Raw) : List Redirect → Run (List Lead)
  | [] => return []
  | redirect :: rest => do
    let lead ← leadOf substitute redirect
    return lead :: (← leadsOf substitute rest)

end TenantHost.Rehearsal.Shell
