/-!
Settings: what can be configured, under which name on the command line and in the environment, and
the words that settings take.
-/

set_option autoImplicit false

namespace ClusterNode

inductive WorkloadName where
  | broadcast
  | counter
  | uniqueIds
deriving DecidableEq, Repr

namespace WorkloadName

def all : List WorkloadName := [.broadcast, .counter, .uniqueIds]

def word : WorkloadName → String
  | .broadcast => "broadcast"
  | .counter => "counter"
  | .uniqueIds => "unique-ids"

def ofWord? (word : String) : Option WorkloadName :=
  all.find? fun w => w.word = word

end WorkloadName

inductive LogFormat where
  | text
  | json
deriving DecidableEq, Repr

namespace LogFormat

def all : List LogFormat := [.text, .json]

def word : LogFormat → String
  | .text => "text"
  | .json => "json"

def ofWord? (word : String) : Option LogFormat :=
  all.find? fun f => f.word = word

end LogFormat

inductive Setting where
  | workload
  | kvService
  | rpcTimeout
  | casMaxAttempts
  | casBackoffBase
  | casBackoffMax
  | logLevel
  | logFormat
deriving DecidableEq, Repr

namespace Setting

/-- All settings, in the order in which the environment is asked for them. -/
def all : List Setting :=
  [.workload, .kvService, .rpcTimeout, .casMaxAttempts, .casBackoffBase, .casBackoffMax, .logLevel,
    .logFormat]

/-- The name of a setting on the command line. Spans of time are in milliseconds. -/
def name : Setting → String
  | .workload => "workload"
  | .kvService => "kv-service"
  | .rpcTimeout => "rpc-timeout-ms"
  | .casMaxAttempts => "cas-max-attempts"
  | .casBackoffBase => "cas-backoff-base-ms"
  | .casBackoffMax => "cas-backoff-max-ms"
  | .logLevel => "log-level"
  | .logFormat => "log-format"

def ofName? (name : String) : Option Setting :=
  all.find? fun s => s.name = name

/-- The name of a setting in the environment: its name in capitals, after the name of the workbench
that runs nodes. -/
def variableName (s : Setting) : String :=
  "MAELSTROM_" ++ String.ofList (s.name.toList.map fun c => if c = '-' then '_' else c.toUpper)

end Setting

end ClusterNode
