import TenantHost.Rehearsal.Installation
/-!
# Descriptors and streams

What the programs of a rehearsed host share: the files, and the streams that their descriptors lead
to. A stream that several descriptors lead to is read and written by all of them, each going on
where the one before it stopped.
-/

namespace TenantHost.Rehearsal

/-- What a descriptor leads to: a pipe that holds what was written and not yet read, a file with the
place to go on at, or a device. -/
inductive Stream where
  | pipe (held : Raw)
  | file (place : Place) (offset : Nat) (atEnd : Bool)
  | directory
  | device (device : Device)

/-- The files and streams of a host, the number that the next program gets, the numbers of the
shells that are at work, and the signals that were sent to them. -/
structure System where
  files : Files
  streams : Array Stream
  nextNumber : Nat
  working : List Nat
  signals : List (Nat × Nat)

/-- What a program finds: its name, its arguments and variables, the directory that it works in, the
stream that each of its descriptors leads to, and the number of the one that launched it. -/
structure Call where
  name : Raw
  arguments : List Raw
  environment : List (Raw × Raw)
  directory : Place
  descriptors : List (Nat × Nat)
  launcher : Nat

/-- How a program ends. -/
inductive Ending where
  | exited (status : Nat)
  | killed (signal : Nat)
  deriving DecidableEq

/-- The status that a shell gives an ending. -/
def Ending.status : Ending → Nat
  | .exited status => status
  | .killed signal => 128 + signal

/-- What is done on a system. -/
abbrev OnSystem (α : Type) : Type := StateM System α

namespace System

/-- A system with files on which nothing runs. -/
def ofFiles (files : Files) : System :=
  ⟨files, #[], 1000, [], []⟩

/-- Opens a stream. -/
def openStream (stream : Stream) : OnSystem Nat := do
  let system ← get
  set { system with streams := system.streams.push stream }
  return system.streams.size

/-- The stream of a number. -/
def stream? (number : Nat) : OnSystem (Option Stream) := do
  return (← get).streams[number]?

/-- The next number for a program. -/
def takeNumber : OnSystem Nat := do
  let system ← get
  set { system with nextNumber := system.nextNumber + 1 }
  return system.nextNumber

/-- Sends a signal to a shell. -/
def send (number signal : Nat) : OnSystem Unit :=
  modify fun system => { system with signals := system.signals ++ [(number, signal)] }

/-- Takes the signals that were sent to a shell. -/
def takeSignals (number : Nat) : OnSystem (List Nat) := do
  let system ← get
  if system.signals.isEmpty then return []
  else
    set { system with signals := system.signals.filter (·.1 ≠ number) }
    return (system.signals.filter (·.1 = number)).map Prod.snd

/-- Changes the files. -/
def mapFiles (f : Files → Files) : OnSystem Unit :=
  modify fun system => { system with files := f system.files }

/-- Changes a stream. -/
def mapStream (number : Nat) (f : Stream → Stream) : OnSystem Unit :=
  modify fun system => { system with streams := system.streams.modify number f }

/-- A text with another one laid over it from an offset on; a hole is filled with zeros. -/
def overlay (before : Raw) (offset : Nat) (text : Raw) : Raw :=
  if before.length = offset then before ++ text
  else
    let old := before.toList
    let hole := List.replicate (offset - old.length) '\x00'
    String.ofList (old.take offset ++ hole ++ text.toList ++ old.drop (offset + text.length))

/-- Writes to the file behind a stream. A file that was taken away is written in vain. -/
def writeFile (number : Nat) (place : Place) (offset : Nat) (atEnd : Bool) (text : Raw) :
    OnSystem Unit := do
  match (← get).files.entryAt? place with
  | some (.file before mode) =>
    let start := if atEnd then before.length else offset
    mapFiles fun files => files.put place (.file (overlay before start text) mode)
    mapStream number fun _ => .file place (start + text.length) atEnd
  | _ => return ()

/-- Writes to a stream. -/
def write (number : Nat) (text : Raw) : OnSystem Unit := do
  match ← stream? number with
  | some (.pipe _) =>
    mapStream number fun
      | .pipe held => .pipe (held ++ text)
      | other => other
  | some (.file place offset atEnd) => writeFile number place offset atEnd text
  | _ => return ()

/-- What is left to read of a stream. -/
def unread (number : Nat) : OnSystem Raw := do
  match ← stream? number with
  | some (.pipe held) => return held
  | some (.file place offset _) =>
    match (← get).files.entryAt? place with
    | some (.file content _) => return (content.drop offset).toString
    | _ => return ""
  | _ => return ""

/-- Passes over so many characters of a stream. -/
def skip (number count : Nat) : OnSystem Unit :=
  mapStream number fun
    | .pipe held => .pipe (held.drop count).toString
    | .file place offset atEnd => .file place (offset + count) atEnd
    | other => other

/-- Reads all that is left of a stream. -/
def takeAll (number : Nat) : OnSystem Raw := do
  let text ← unread number
  skip number text.length
  return text

/-- Reads a line of a stream, and tells whether it ends as a line does. -/
def takeLine (number : Nat) : OnSystem (Raw × Bool) := do
  let text ← unread number
  let line := (text.takeWhile (· != '\n')).toString
  let isEnded := line.length < text.length
  skip number (if isEnded then line.length + 1 else line.length)
  return (line, isEnded)

end System

end TenantHost.Rehearsal
