import ClusterNode.Config.Arguments
import ClusterNode.Config.LogFilter
import ClusterNode.Node.Basic
import ClusterNode.Workload.Broadcast
import ClusterNode.Workload.Counter
import ClusterNode.Workload.UniqueIds

/-!
Launches: what the program is to do, by its name, its arguments and its environment.
-/

set_option autoImplicit false

namespace ClusterNode

inductive Launch where
  | tell (lines : List String)
  | misuse (e : UsageError)
  | refuse (reason : String)
  | crash
  | serve (name : WorkloadName) (config : Config)

def Config.serve (config : Config) : WorkloadName → Workload
  | .broadcast => .broadcast
  | .counter => .counter ⟨config.kvService, config.retryPolicy⟩
  | .uniqueIds => .uniqueIds

def Config.node (config : Config) (name : WorkloadName) : Node (config.serve name) :=
  .start _ config.rpcTimeoutSpan

namespace Launch

def version : List String := ["maelstrom-node 0.1.0"]

def help : List String :=
  ["Maelstrom workload node speaking line-delimited JSON on stdin/stdout", "",
    "Usage: maelstrom-node [OPTIONS]", "", "Options:"]
    ++ Setting.all.map (fun s =>
      "      --" ++ s.name ++ " <VALUE>  [env: " ++ s.variableName ++ "]")
    ++ ["  -h, --help", "  -V, --version"]

def logVariable : String := "RUST_LOG"

def checkLog (config : Config) (env : Arguments.Environment) : Except LogFilter.Fault Unit :=
  match (env logVariable).map LogFilter.check with
  -- The variable counts only if it is a filter.
  | none | some (.error .malformed) => LogFilter.check config.logLevel
  | some answer => answer

def ofConfig (program : String) (env : Arguments.Environment) (config : Config) : Launch :=
  match config.validate with
  | .error e => .refuse e.message
  | .ok () =>
    match checkLog config env with
    | .error .malformed => .refuse "invalid filter directive"
    | .error .splitCharacter => .crash
    | .ok () =>
      match config.resolve program with
      | .ok name => .serve name config
      | .error e => .refuse e.message

def plan (program : String) (words : List String) (env : Arguments.Environment) : Launch :=
  match Arguments.read words env with
  | .ok config => ofConfig program env config
  | .error .help => .tell help
  | .error .version => .tell version
  | .error (.usage e) => .misuse e

def exitCode : Launch → UInt32
  | .tell _ | .serve _ _ => 0
  | .refuse _ => 1
  | .misuse _ => 2
  | .crash => 101

def exitCodeAfter : Option (Except NodeError Unit) → UInt32
  | some (.error _) => 1
  | _ => 0

end Launch

end ClusterNode
