import ClusterNode.Config.Numeral
import ClusterNode.Config.ProgramName
import ClusterNode.Counter.Retry
import ClusterNode.Store.Client
import ClusterNode.Text.Blank
import ClusterNode.Text.Quoted

/-!
The configuration of a node: the settings with their values, and what makes them unusable.
-/

set_option autoImplicit false

namespace ClusterNode

/-- Why the words of a command line or the values of an environment are no configuration. -/
inductive UsageError where
  /-- A value is missing, or is not one of the words that the setting takes. -/
  | notAWord
  /-- A value is not a number that the setting takes. -/
  | notANumber
  | unknownArgument
  | repeatedOption
  /-- An option that takes no value is given one. -/
  | unwantedValue
deriving DecidableEq, Repr

def UsageError.message : UsageError → String
  | .notAWord => "a value is missing or is not one of those that the option takes"
  | .notANumber => "a value is not a number that the option takes"
  | .unknownArgument => "there is an unknown argument"
  | .repeatedOption => "an option is given more than once"
  | .unwantedValue => "an option without a value is given one"

inductive ConfigError where
  | zeroTimeout
  | zeroAttempts
  | invertedBackoff (base max : UInt64)
  | emptyService
  /-- No workload was chosen, and the program is not named for one. -/
  | unknownWorkload (program : String)
deriving DecidableEq, Repr

def ConfigError.message : ConfigError → String
  | .zeroTimeout => "Invalid configuration: rpc-timeout-ms must be greater than zero"
  | .zeroAttempts => "Invalid configuration: cas-max-attempts must be at least 1"
  | .invertedBackoff base max =>
    "Invalid configuration: cas-backoff-base-ms (" ++ toString base
      ++ ") exceeds cas-backoff-max-ms (" ++ toString max ++ ")"
  | .emptyService => "Invalid configuration: kv-service must not be empty"
  | .unknownWorkload program =>
    "No workload given and none can be inferred from program name " ++ Text.quoted program

structure Config where
  workload : Option WorkloadName
  kvService : String
  rpcTimeout : UInt64
  casMaxAttempts : Option UInt32
  casBackoffBase : UInt64
  casBackoffMax : UInt64
  logLevel : String
  logFormat : LogFormat
deriving DecidableEq, Repr

namespace Config

def default : Config where
  workload := none
  kvService := KvClient.defaultService
  rpcTimeout := 1000
  casMaxAttempts := none
  casBackoffBase := 0
  casBackoffMax := 100
  logLevel := "info"
  logFormat := .text

/-- A span in milliseconds, which is at most the greatest word of 64 bits. -/
def millis (value : String) : Except UsageError UInt64 :=
  match Numeral.natural? value with
  | some n => if n < UInt64.size then .ok (.ofNat n) else .error .notANumber
  | none => .error .notANumber

/-- A number of attempts, which is at most the greatest word of 32 bits. Zero may have either
sign. -/
def attempts (value : String) : Except UsageError UInt32 :=
  match Numeral.integer? value with
  | some n => if 0 ≤ n ∧ n.toNat < UInt32.size then .ok (.ofNat n.toNat) else .error .notANumber
  | none => .error .notANumber

def set (c : Config) (s : Setting) (value : String) : Except UsageError Config :=
  match s with
  | .workload =>
    match WorkloadName.ofWord? value with
    | some w => .ok { c with workload := some w }
    | none => .error .notAWord
  | .kvService => .ok { c with kvService := value }
  | .rpcTimeout => (millis value).map fun n => { c with rpcTimeout := n }
  | .casMaxAttempts => (attempts value).map fun n => { c with casMaxAttempts := some n }
  | .casBackoffBase => (millis value).map fun n => { c with casBackoffBase := n }
  | .casBackoffMax => (millis value).map fun n => { c with casBackoffMax := n }
  | .logLevel => .ok { c with logLevel := value }
  | .logFormat =>
    match LogFormat.ofWord? value with
    | some f => .ok { c with logFormat := f }
    | none => .error .notAWord

def validate (c : Config) : Except ConfigError Unit :=
  if c.rpcTimeout = 0 then .error .zeroTimeout
  else if c.casMaxAttempts = some 0 then .error .zeroAttempts
  else if c.casBackoffBase > c.casBackoffMax then
    .error (.invertedBackoff c.casBackoffBase c.casBackoffMax)
  else if (Text.trim c.kvService).isEmpty then .error .emptyService
  else .ok ()

/-- The workload that was chosen, or else the one that the program is named for. -/
def resolve (c : Config) (program : String) : Except ConfigError WorkloadName :=
  match c.workload with
  | some w => .ok w
  | none =>
    match ProgramName.workload? program with
    | some w => .ok w
    | none => .error (.unknownWorkload program)

def rpcTimeoutSpan (c : Config) : Duration :=
  .ofMillis c.rpcTimeout.toNat

def retryPolicy (c : Config) : RetryPolicy where
  maxAttempts := c.casMaxAttempts.map UInt32.toNat
  baseDelay := .ofMillis c.casBackoffBase.toNat
  maxDelay := .ofMillis c.casBackoffMax.toNat

end Config

end ClusterNode
