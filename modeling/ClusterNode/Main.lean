import ClusterNode.Launch
import ClusterNode.Node.Schedule
import Std.Time.DateTime.Timestamp

/-!
The program: lines that arrive on its input are given to a node, and the messages of the node are
written to its output. The clock of the node is moved along with the clock of the machine.
-/

set_option autoImplicit false

namespace ClusterNode.Main

variable {w : Workload}

/-- What the clock and the source of randomness bring now. -/
def stamp : IO Stamp := do
  let nanos := (← Std.Time.Timestamp.now).toNanosecondsSinceUnixEpoch.val
  let bytes ← IO.getRandomBytes 8
  return ⟨.ofInt nanos, bytes.toList.foldl (fun n b => n * 256 + b.toUInt64) 0⟩

def environment : IO Arguments.Environment := do
  let names := Launch.logVariable :: Setting.all.map Setting.variableName
  let values ← names.mapM fun name => return (name, ← IO.getEnv name)
  return fun name => (values.lookup name).join

/-- Writes the messages that the node has written since the last time. Once the output is closed,
all further writes fail. -/
def print (s : Schedule w) : IO (Schedule w) := do
  let out ← IO.getStdout
  let node := { s.node with written := [] }
  try
    for m in s.node.written do
      out.putStrLn m.encode
      out.flush
    return { s with node }
  catch _ =>
    return { s with node := { node with mode := .failing } }

/-- Moves the clock of the node to that of the machine, which showed `begun` in the beginning. -/
def catchUp (begun : Nat) (s : Schedule w) : IO (Schedule w) := do
  let now := (← IO.monoMsNow) - begun
  return (Schedule.moveTo { s with stamp := ← stamp } now).settle

/-- Gives the node what has arrived, line by line. No bytes at all are the end of the input. -/
def feed (begun : Nat) (s : Schedule w) (bytes : ByteArray) : IO (Schedule w) := do
  if bytes.isEmpty then return (← catchUp begun s).close
  let (lines, last) := Input.cut bytes.toList
  let s ← lines.foldlM (fun s line => return (← catchUp begun s).feed line) s
  return s.feed last

/-- A read of the input that has begun: whether it is over, and what it brings. -/
structure Reading where
  isOver : IO Bool
  bytes : IO ByteArray

def read : IO Reading := do
  let input ← IO.getStdin
  let task ← IO.asTask (input.read 65536)
  return ⟨IO.hasFinished task, do IO.ofExcept (← IO.wait task)⟩

/-- Waits until there is input or time has passed for a task that waits for it. A read that has
begun goes on until there is input. -/
partial def await (begun : Nat) (s : Schedule w) (reading : Option Reading) : IO UInt32 := do
  let s ← print s
  if s.node.verdict.isSome then
    if let some (.error e) := s.node.verdict then IO.eprintln ("Error: " ++ e.message)
    return Launch.exitCodeAfter s.node.verdict
  if s.input.closed then
    IO.sleep 1
    await begun (← catchUp begun s) none
  else
    let reading ← reading.getDM read
    if s.nextDeadline?.isNone || (← reading.isOver) then
      await begun (← feed begun s (← reading.bytes)) none
    else
      IO.sleep 1
      await begun (← catchUp begun s) (some reading)

def run (launch : Launch) : IO UInt32 := do
  match launch with
  | .tell lines => lines.forM IO.println
  | .misuse e => IO.eprintln ("error: " ++ e.message)
  | .refuse reason => IO.eprintln ("Error: " ++ reason)
  | .crash => IO.eprintln "Error: the log filter cannot be read"
  | .serve name config =>
    return ← await (← IO.monoMsNow) (.start (config.node name) (← stamp)) none
  return launch.exitCode

end ClusterNode.Main

def main (words : List String) : IO UInt32 := do
  let program := (← IO.appPath).toString
  ClusterNode.Main.run (ClusterNode.Launch.plan program words (← ClusterNode.Main.environment))
