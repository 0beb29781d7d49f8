import TenantHost.Command.Launch
import TenantHost.Host.Basic
import TenantHost.Rehearsal.Shell.Run
/-!
# A rehearsed host

A host that is made of data: what it reports, the files it has, and the answers that its commands
and its sensors give, one after the other. Each list of answers is gone through once, and its last
one is given for ever after.
-/

namespace TenantHost.Rehearsal

/-- Answers that are given one after the other; the last one stays. -/
structure Answers (α : Type) where
  next : α
  later : List α

/-- The next answer, and the answers after it. -/
def Answers.take {α : Type} (answers : Answers α) : α × Answers α :=
  match answers.later with
  | [] => (answers.next, answers)
  | first :: rest => (answers.next, ⟨first, rest⟩)

/-- The same answer every time. -/
def Answers.always {α : Type} (answer : α) : Answers α :=
  ⟨answer, []⟩

/-- The answers of a list, if it has any. -/
def Answers.ofList? {α : Type} : List α → Option (Answers α)
  | [] => none
  | first :: rest => some ⟨first, rest⟩

/-- What a sensor gives when it is read. -/
abbrev Reading : Type := Except Fault Number

/-- What is added to the files of a host. -/
inductive Content where
  | bytes (bytes : List UInt8)
  | directory
  deriving DecidableEq

/-- What a command does: it adds to a file, if that is asked for, and writes an output, or it
fails. -/
inductive Response where
  | output (text : String) (addition : Option (Path × Content))
  | failure (fault : Fault)

/-- The readings of the sensors of a host; the system may report no load. -/
structure SensorAnswers where
  totalMemory : Answers Reading
  availableMemory : Answers Reading
  cpuPercent : Answers Reading
  hardwareLoad : Answers Reading
  systemLoad : Option (Answers Reading)

/-- A host that is made of data. -/
structure Machine where
  system : Except Fault String
  user : Except Fault String
  processId : Int
  cpuCount : Option Int
  files : Files
  responses : List (String × Answers Response)
  otherwise : Option (Answers Response)
  metrics : Metric → Answers Reading
  sensors : SensorAnswers

namespace Machine

/-! ## Usual answers -/

/-- The fault of a host whose hardware gives no load. -/
def missingLoad : Fault :=
  .outside .absent "AttributeError" "'types.SimpleNamespace' object has no attribute 'getloadavg'"

/-- What a metric reads on a host that is not told otherwise. -/
def usualReading : Metric → Number
  | .totalMemory => .int (twoTo 34)
  | .availableMemory => .int (twoTo 33)
  | .systemLoad => .real (Double.ofNat 1)
  | .hardwareLoad => .nan
  | .cpuLoad => .real (Double.ofRatio false 1 4)

/-- What the sensors read on a host that is not told otherwise. -/
def usualSensors : SensorAnswers where
  totalMemory := .always (.ok (.int (twoTo 34)))
  availableMemory := .always (.ok (.int (twoTo 33)))
  cpuPercent := .always (.ok (.real (Double.ofNat 25)))
  hardwareLoad := .always (.ok (.real (Double.ofNat 1)))
  systemLoad := some (.always (.ok (.real (Double.ofNat 1))))

/-- A host that is not told otherwise. -/
def usual : Machine where
  system := .ok "Linux"
  user := .ok "builder"
  processId := 4242
  cpuCount := some 4
  files := Installation.files
  responses := []
  otherwise := none
  metrics := fun metric => .always (.ok (usualReading metric))
  sensors := usualSensors

/-! ## Files -/

/-- Changes the files. -/
def mapFiles (machine : Machine) (f : Files → Files) : Machine :=
  { machine with files := f machine.files }

/-- Puts a content behind a path; the directories on the way are made. `write` tells what is done
with the bytes of a file. -/
def placeContent (write : Files → Place → Raw → Files) (path : Path) (content : Content)
    (files : Files) :
    Files :=
  let start := Files.startOf Installation.workplace path.anchor.text
  let names := path.names.map Raw.ofText
  match content with
  | .directory => files.makeWay start names
  | .bytes bytes =>
    let files := files.makeWay start names.dropLast
    match files.locate true Installation.workplace (Files.rawPath path) with
    | .ok place => write files place (Raw.ofBytes bytes)
    | .error _ => files

/-- Writes a file or makes a directory. -/
def writeFile (path : Path) (content : Content) : Action Machine Unit :=
  .update fun machine => machine.mapFiles (placeContent Files.write path content)

/-- Adds to a file. -/
def appendFile (path : Path) (content : Content) : Action Machine Unit :=
  .update fun machine => machine.mapFiles (placeContent Files.append path content)

/-- Takes a file away; the path is as it was written. -/
def removeFile (path : String) : Action Machine Unit := do
  let machine ← Action.state
  let files ← Action.ofExcept (machine.files.remove Installation.workplace path)
  Action.update fun machine => { machine with files }

/-! ## Answers -/

/-- Takes an answer out of a part of the machine. -/
def takeAnswer {α : Type} (part : Machine → Answers α)
    (put : Machine → Answers α → Machine) :
    Action Machine α :=
  fun machine => (.ok (part machine).take.1, put machine (part machine).take.2)

/-- Takes a reading out of a part of the machine. -/
def takeReading (part : Machine → Answers Reading)
    (put : Machine → Answers Reading → Machine) :
    Action Machine Number := do
  Action.ofExcept (← takeAnswer part put)

/-- Reads a metric of the given source. -/
def readMetric (metric : Metric) : Action Machine Number :=
  takeReading (fun machine => machine.metrics metric) fun machine answers =>
    { machine with metrics := fun other => if other = metric then answers
      else machine.metrics other }

/-- Reads a sensor. -/
def readSensor (part : SensorAnswers → Answers Reading)
    (put : SensorAnswers → Answers Reading → SensorAnswers) : Action Machine Number :=
  takeReading (fun machine => part machine.sensors) fun machine answers =>
    { machine with sensors := put machine.sensors answers }

/-- The load that the system reports, if it reports one. -/
def readSystemLoad : Action Machine (Option (Action Machine Number)) := do
  match (← Action.state).sensors.systemLoad with
  | none => return none
  | some answers =>
    return some (readSensor (fun _ => answers) fun sensors rest =>
      { sensors with systemLoad := some rest })

/-- The sensors. -/
def sensorsOf : Sensors Machine where
  totalMemory := readSensor SensorAnswers.totalMemory fun s rest => { s with totalMemory := rest }
  availableMemory := readSensor SensorAnswers.availableMemory fun s rest =>
    { s with availableMemory := rest }
  cpuPercent := readSensor SensorAnswers.cpuPercent fun s rest => { s with cpuPercent := rest }
  hardwareLoad := readSensor SensorAnswers.hardwareLoad fun s rest =>
    { s with hardwareLoad := rest }
  systemLoad := readSystemLoad

/-- Takes the answer to a command: its own one, or the one to any other command. -/
def takeResponse (argv : List String) : Action Machine (Option Response) := do
  let machine ← Action.state
  let line := Command.line argv
  match machine.responses.lookup line, machine.otherwise with
  | some answers, _ => do
    let responses := Table.insert machine.responses line answers.take.2
    Action.update fun machine => { machine with responses }
    return some answers.take.1
  | none, some answers => do
    Action.update fun machine => { machine with otherwise := some answers.take.2 }
    return some answers.take.1
  | none, none => return none

/-- Answers a command. -/
def respond (argv : List String) : Action Machine String := do
  match ← takeResponse argv with
  | none => Action.fail (.command ⟨argv, .notFound none⟩)
  | some (.failure fault) => Action.fail fault
  | some (.output text none) => pure text
  | some (.output text (some (path, content))) => do
    appendFile path content
    return text

/-! ## Programs -/

/-- Whether an argument has a character that no argument can have. -/
def isUnpassable (argument : String) : Bool :=
  argument.toList.contains '\x00'

/-- The directory that a program is launched in. -/
def launchDirectory (machine : Machine) (directory : Option Path) : Except Fault Place :=
  match directory with
  | none => .ok Installation.workplace
  | some path =>
    let refuse (problem : FileProblem) : Except Fault Place :=
      .error (.file problem ("PosixPath(" ++ Text.quoted path.text ++ ")"))
    match machine.files.locate true Installation.workplace (Files.rawPath path) with
    | .error problem => refuse problem
    | .ok place =>
      match machine.files.entryAt? place with
      | some (.directory _) => .ok place
      | some _ => refuse .notDirectory
      | none => refuse .missing

/-- The length that an argument has to stay below. -/
def argumentLimit : Nat := 131072

/-- What launching a program in a directory means. -/
def targetOf (machine : Machine) (directory : Place) (program : Raw) (arguments : List Raw) :
    Except FileProblem Launching.Target :=
  let path := Launching.searchPath ((Installation.environment.lookup "PATH").getD "")
  let isTooLong : Bool := (program :: arguments).any fun argument =>
    argument.length ≥ argumentLimit
  match Launching.search machine.files directory path program arguments with
  | .ok target => if isTooLong then .error .tooLongArgument else .ok target
  | .error .badFormat => .error (if isTooLong then .tooLongArgument else .badFormat)
  | .error problem => .error problem

/-- Carries out a program on files; its output and its errors are caught. -/
def perform (files : Files) (directory : Place) (target : Launching.Target) : Finished × Files :=
  let streams : Array Stream := #[.device .null, .pipe "", .pipe ""]
  let call : Call :=
    ⟨target.name, target.arguments, Installation.environment, directory,
      [(0, 0), (1, 1), (2, 2)], 1⟩
  let (ending, system) :=
    (Shell.performProgram target.program call).run { System.ofFiles files with streams }
  let held (stream : Nat) : List UInt8 :=
    match system.streams[stream]? with
    | some (.pipe held) => Raw.bytes held
    | _ => []
  let status : Int :=
    match ending with
    | .exited status => status
    | .killed signal => -(signal : Int)
  (⟨status, held 1, held 2⟩, system.files)

/-- Launches a program in a directory. -/
def launch (directory : Option Path) (argv : List String) : Action Machine Finished := do
  let machine ← Action.state
  let program := argv.head?.getD ""
  if argv.any isUnpassable || directory.any Files.isUnnameable then Action.fail .embeddedNull
  else
    let place ← Action.ofExcept (machine.launchDirectory directory)
    match machine.targetOf place (Raw.ofText program) (argv.tail.map Raw.ofText) with
    | .error problem => Action.fail (.file problem (Text.quoted program))
    | .ok target =>
      let (finished, files) := perform machine.files place target
      Action.update fun machine => { machine with files }
      return finished

/-! ## The host -/

/-- The host that a machine is. With `launching`, commands are launched as programs; otherwise they
get the answers that are laid down for them. -/
def host (launching : Bool) : Host Machine where
  execute := if launching then Executor.ofLauncher (launch none) else Executor.ofParty respond
  systemName := do Action.ofExcept (← Action.state).system
  userName := do Action.ofExcept (← Action.state).user
  processId := do return (← Action.state).processId
  cpuCount := do return (← Action.state).cpuCount
  fileExists := fun path => do
    Action.ofExcept ((← Action.state).files.isPresent Installation.workplace path)
  readFile := fun path => do
    Action.ofExcept ((← Action.state).files.read Installation.workplace path)
  sensors := sensorsOf

end Machine

end TenantHost.Rehearsal
