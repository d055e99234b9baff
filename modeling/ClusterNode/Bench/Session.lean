import ClusterNode.Bench.Caller
import ClusterNode.Bench.Service
import ClusterNode.Node.Schedule

/-!
Sessions: a node on a bench, with callers and perhaps a key-value service beside it. After each
event everything runs until nothing changes; whenever the node has come to rest, the service answers
the oldest request that it has not answered yet.
-/

set_option autoImplicit false

namespace ClusterNode.Bench

/-- A node with callers beside it, and a service that has looked at the first messages that were
written. -/
structure Session (w : Workload) where
  schedule : Schedule (Caller.beside w)
  service : Option Service
  looked : Nat

namespace Session

variable {w : Workload}

def start (w : Workload) (rpcTimeout : Duration) (service : Option Service) (stamp : Stamp) :
    Session w where
  schedule := .start (.start _ rpcTimeout) stamp
  service
  looked := 0

def node (s : Session w) : Node (Caller.beside w) :=
  s.schedule.node

def lineBytes (line : String) : List UInt8 :=
  (line ++ "\n").toUTF8.toList

def look (s : Session w) (service : Service) (m : Message) : Session w :=
  let s := { s with looked := s.looked + 1 }
  if m.dest = service.name then
    let (reply, service) := service.respond m
    let s := { s with service := some service }
    match reply with
    | some reply => { s with schedule := s.schedule.feed (lineBytes reply.encode) }
    | none => s
  else s

def serve (fuel : Nat) (s : Session w) : Session w :=
  match fuel with
  | 0 => s
  | fuel + 1 =>
    match s.service, s.node.written[s.looked]? with
    | some service, some m => serve fuel (s.look service m)
    | _, _ => s

def settle (s : Session w) : Session w :=
  serve Schedule.patience { s with schedule := s.schedule.settle }

def event (s : Session w) (f : Schedule (Caller.beside w) → Schedule (Caller.beside w)) :
    Session w :=
  settle { s with schedule := f s.schedule }

def change (s : Session w) (f : Node (Caller.beside w) → Node (Caller.beside w)) : Session w :=
  s.event fun schedule => schedule.change f

def feed (s : Session w) (bytes : List UInt8) : Session w :=
  s.event fun schedule => schedule.feed bytes

def close (s : Session w) : Session w :=
  s.event Schedule.close

def call (s : Session w) (c : Caller.Call) : Session w :=
  s.change fun n => n.spawnClient (.inr (.calling c))

def cancel (s : Session w) : Session w :=
  s.change fun n => { n with cancelled := true }

def setMode (s : Session w) (mode : WriteMode) : Session w :=
  s.change fun n => { n with mode }

/-- Moves the clock to an instant, stopping at each instant for which a task waits. -/
def moveTo (fuel : Nat) (s : Session w) (instant : Nat) : Session w :=
  match fuel with
  | 0 => s
  | fuel + 1 =>
    match s.schedule.nextDeadline? with
    | some deadline =>
      if deadline ≤ instant then
        moveTo fuel (s.event fun schedule => schedule.moveTo deadline) instant
      else s.event fun schedule => schedule.moveTo instant
    | none => s.event fun schedule => schedule.moveTo instant

def advance (s : Session w) (millis : Nat) : Session w :=
  moveTo Schedule.patience s (s.schedule.now + millis)

/-- Lets time pass until a number of messages has been written, or no task waits for an instant. -/
def await (fuel : Nat) (s : Session w) (count : Nat) : Session w :=
  match fuel with
  | 0 => s
  | fuel + 1 =>
    if count ≤ s.node.written.length then s
    else
      match s.schedule.nextDeadline? with
      | some deadline => await fuel (s.event fun schedule => schedule.moveTo deadline) count
      | none => s

def drain (fuel : Nat) (s : Session w) : Session w :=
  match fuel with
  | 0 => s
  | fuel + 1 =>
    match s.schedule.nextDeadline? with
    | some deadline => drain fuel (s.event fun schedule => schedule.moveTo deadline)
    | none => s

end Session

end ClusterNode.Bench
