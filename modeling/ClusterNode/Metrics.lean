import ClusterNode.Dictionary

/-!
Counts of what a node has done. They are words of 64 bits and wrap around.
-/

set_option autoImplicit false

namespace ClusterNode

/-- The counts of a node. -/
structure Metrics where
  received : UInt64
  sent : UInt64
  sendFailures : UInt64
  rpcsSent : UInt64
  repliesMatched : UInt64
  repliesDropped : UInt64
  activeHandlers : UInt64
  errorReplies : UInt64
  crashes : UInt64
  handled : Dictionary UInt64
deriving DecidableEq

namespace Metrics

def zero : Metrics := ⟨0, 0, 0, 0, 0, 0, 0, 0, 0, []⟩

def countReceived (m : Metrics) : Metrics := { m with received := m.received + 1 }

def countSent (m : Metrics) : Metrics := { m with sent := m.sent + 1 }

def countSendFailure (m : Metrics) : Metrics := { m with sendFailures := m.sendFailures + 1 }

def countRpcSent (m : Metrics) : Metrics := { m with rpcsSent := m.rpcsSent + 1 }

def countReplyMatched (m : Metrics) : Metrics := { m with repliesMatched := m.repliesMatched + 1 }

def countReplyDropped (m : Metrics) : Metrics := { m with repliesDropped := m.repliesDropped + 1 }

def handledOf (m : Metrics) (kind : String) : UInt64 :=
  (Dictionary.get? kind m.handled).getD 0

def countHandlerStart (m : Metrics) (kind : String) : Metrics :=
  { m with
    activeHandlers := m.activeHandlers + 1
    handled := Dictionary.insert kind (m.handledOf kind + 1) m.handled }

def countHandlerEnd (m : Metrics) : Metrics := { m with activeHandlers := m.activeHandlers - 1 }

def countErrorReply (m : Metrics) : Metrics := { m with errorReplies := m.errorReplies + 1 }

def countCrash (m : Metrics) : Metrics := { m with crashes := m.crashes + 1 }

def entries (m : Metrics) : List (String × UInt64) :=
  [("messages_received", m.received), ("messages_sent", m.sent), ("send_failures", m.sendFailures),
    ("rpcs_sent", m.rpcsSent), ("replies_matched", m.repliesMatched),
    ("replies_dropped", m.repliesDropped), ("active_handlers", m.activeHandlers),
    ("error_replies", m.errorReplies), ("crashes", m.crashes)]

def text (m : Metrics) : String :=
  "MetricsSnapshot \x7b "
    ++ ", ".intercalate (m.entries.map fun (name, count) => name ++ ": " ++ toString count)
    ++ " \x7d"

end Metrics

end ClusterNode
