import ClusterNode.Bench.Session
import ClusterNode.Launch

/-!
Trials: the program as a whole is launched and given lines one by one; after each, some lines of its
output are awaited. Then its input ends.
-/

set_option autoImplicit false

namespace ClusterNode.Bench

/-- A line for the program, and the number of lines of output to read after it. -/
structure Prompt where
  line : String
  expected : Nat

/-- What was read after each prompt, what was left to read in the end, and the exit code. -/
structure Trial where
  answers : List (List String)
  rest : List String
  exitCode : UInt32

namespace Trial

/-- Reads some lines for each prompt from those that a program has printed on its own. -/
def deal (lines : List String) : List Prompt → List (List String) × List String
  | [] => ([], lines)
  | prompt :: prompts =>
    let (answers, rest) := deal (lines.drop prompt.expected) prompts
    (lines.take prompt.expected :: answers, rest)

def converse {w : Workload} (s : Session w) (read : Nat) :
    List Prompt → List (List String) × Session w × Nat
  | [] => ([], s, read)
  | prompt :: prompts =>
    let s := (s.feed (Session.lineBytes prompt.line)).await Schedule.patience
      (read + prompt.expected)
    let lines := ((s.node.written.drop read).take prompt.expected).map Message.encode
    let (answers, s, read) := converse s (read + lines.length) prompts
    (lines :: answers, s, read)

/-- A trial of a node. After the end of its input it goes on until its tasks are over. -/
def serve (w : Workload) (rpcTimeout : Duration) (stamp : Stamp) (prompts : List Prompt) : Trial :=
  let (answers, s, read) := converse (.start w rpcTimeout none stamp) 0 prompts
  let s := s.close.drain Schedule.patience
  ⟨answers, (s.node.written.drop read).map Message.encode, Launch.exitCodeAfter s.node.verdict⟩

def run (launch : Launch) (stamp : Stamp) (prompts : List Prompt) : Trial :=
  let alone (lines : List String) : Trial :=
    let (answers, rest) := deal lines prompts
    ⟨answers, rest, launch.exitCode⟩
  match launch with
  | .serve name config => serve (config.serve name) config.rpcTimeoutSpan stamp prompts
  | .tell lines => alone lines
  | .misuse _ | .refuse _ | .crash => alone []

end Trial

end ClusterNode.Bench
