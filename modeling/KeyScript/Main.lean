import KeyScript.Server.Serve
import KeyScript.Tool.Run

/-!
# The programs

The command line tool and the language server on the files and streams of a machine. The name
under which the program is called says which of the two runs.

## Main definitions

- `machine` — the host that works on the files and streams of a machine
- `main` — the programs
-/

namespace KeyScript

/-- The bytes of a text of the machine. -/
def machineBytes (s : String) : Bytes := s.toUTF8.toList

/-- A path as a text of the machine. -/
def machinePath (s : Bytes) : String := (String.fromUTF8? ⟨s.toArray⟩).getD ""

/-- The number under which a machine reports that a file is a directory. -/
def directoryNumber : UInt32 := 21

/-- The number under which a machine reports that a name is too long. -/
def longNameNumber : UInt32 := 36

/-- The problem that an error of the machine reports. -/
def machineProblem : IO.Error → FileProblem
  | .noFileOrDirectory .. => .notFound
  | .inappropriateType _ number _ =>
    if number = directoryNumber then .isDirectory else .notDirectory
  | .permissionDenied .. => .other "permission denied"
  | .invalidArgument _ number _ => if number = longNameNumber then .nameTooLong else .invalidPath
  | e => .other (machineBytes (toString e))

/-- Reads a file of the machine. -/
def readMachineFile (path : Bytes) : IO (Except FileError Bytes) := do
  try
    let data ← IO.FS.readBinFile (machinePath path)
    return .ok data.toList
  catch e =>
    let problem := machineProblem e
    return .error ⟨if problem = .isDirectory then "read" else "open", path, problem⟩

/-- Writes a file of the machine. -/
def writeMachineFile (path text : Bytes) : IO (Except FileError Unit) := do
  try
    IO.FS.writeBinFile (machinePath path) ⟨text.toArray⟩
    return .ok ()
  catch e => return .error ⟨"open", path, machineProblem e⟩

/-- The problem of a path that leads to nothing on the machine. -/
def missingOnMachine? (path : Bytes) : IO (Option FileProblem) := do
  match ← readMachineFile path with
  | .error { problem := .notFound, .. } => return some .notFound
  | .error { problem := .notDirectory, .. } => return some .notDirectory
  | _ => return none

/-- Writes to a stream at once. -/
def writeNow (stream : IO.FS.Stream) (text : Bytes) : IO Unit := do
  stream.write ⟨text.toArray⟩
  stream.flush

/-- The greatest number of bytes that are read at a time. -/
def chunkSize : Nat := 65536

/-- Reads a stream to its end. -/
partial def readToEnd (stream : IO.FS.Stream) (sofar : ByteArray) : IO ByteArray := do
  let chunk ← stream.read chunkSize.toUSize
  if chunk.isEmpty then return sofar else readToEnd stream (sofar ++ chunk)

/-- The host that works on the files and streams of the machine. -/
def machine : Host IO where
  readFile := readMachineFile
  writeFile := writeMachineFile
  isDirectory path := do
    match ← readMachineFile path with
    | .error e => return e.problem = .isDirectory
    | .ok _ => return false
  missing? := missingOnMachine?
  readInput := do return (← readToEnd (← IO.getStdin) .empty).toList
  writeOutput text := do writeNow (← IO.getStdout) text
  writeError text := do writeNow (← IO.getStderr) text

/-- The surroundings of a task on the machine. -/
def machineSurroundings : IO Surroundings := do
  let names := [layoutFlag, boardFlag, configFlag].filterMap Flag.environmentName
  let environment ← names.filterMapM fun name => do
    return (← IO.getEnv (machinePath name)).map fun value => (name, machineBytes value)
  return { environment, outputIsTerminal := ← (← IO.getStdout).isTty,
           errorIsTerminal := ← (← IO.getStderr).isTty }

/-- The time between two looks at a script, in milliseconds. -/
def watchPause : UInt32 := 200

/-- Follows the changes of a script. -/
partial def watchForever (job : WatchJob) (paint : Paint) (seen : Except FileError Bytes) :
    IO Unit := do
  IO.sleep watchPause
  let now ← machine.readFile job.script
  if now.isOk && now.toOption != seen.toOption then
    if let some b ← job.follow machine ⟨job.script, .written⟩ then
      machine.writeError (buildReport paint job b)
  watchForever job paint now

/-- The command line tool. -/
def runTool (arguments : List Bytes) : IO UInt32 := do
  let result ← (runArguments arguments (← machineSurroundings) machine).run
  if let .ok (some (job, paint)) := result then
    watchForever job paint (← machine.readFile job.script)
  let e := exitOf result
  machine.writeError e.words
  return e.code.toUInt32

/-- The language server, from a point of a session on. -/
partial def runServer (c : Connection) : IO UInt32 := do
  let chunk ← (← IO.getStdin).read (min c.wanted chunkSize).toUSize
  let (next, sent) := c.respond chunk.toList
  machine.writeOutput sent
  if chunk.isEmpty || next.ended.isSome then
    let e := next.finish.exitOf
    machine.writeError e.words
    return e.code.toUInt32
  else runServer next

end KeyScript

/-- The programs. -/
def main (arguments : List String) : IO UInt32 := do
  let path ← IO.appPath
  if KeyScript.Path.lastName (KeyScript.machineBytes path.toString) = KeyScript.serverName then
    KeyScript.runServer {}
  else
    KeyScript.runTool (arguments.map KeyScript.machineBytes)
