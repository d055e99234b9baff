import ClusterNode.Node.Input

/-!
A schedule for one thread and a clock that is moved by hand. Lines of input that have arrived are
received first; then tasks run in the order in which they became ready, each until it has to wait.
Tasks that become ready at the same instant do so in the order in which they began to wait.
-/

set_option autoImplicit false

namespace ClusterNode

/-- A node with a clock in milliseconds, its input, the tasks that are ready and those that wait. -/
structure Schedule (w : Workload) where
  node : Node w
  now : Nat
  input : Input
  ready : List Nat
  waiting : List Nat
  stamp : Stamp

namespace Schedule

variable {w : Workload}

def start (node : Node w) (stamp : Stamp) : Schedule w where
  node
  now := 0
  input := .empty
  ready := []
  waiting := []
  stamp

/-- Whether the task with a number has nothing to wait for. A task that is gone counts as ready. -/
def isReady (s : Schedule w) (id : Nat) : Bool :=
  match s.node.task? id with
  | some t => s.node.isReady s.now t
  | none => true

/-- Moves the tasks whose waiting is over to those that are ready, and drops those that are gone. -/
def wake (s : Schedule w) : Schedule w :=
  let waiting := s.waiting.filter fun id => (s.node.task? id).isSome
  { s with
    ready := s.ready ++ waiting.filter s.isReady
    waiting := waiting.filter fun id => !s.isReady id }

/-- Changes the node. Tasks that are new become ready in the order of their numbers. -/
def change (s : Schedule w) (f : Node w → Node w) : Schedule w :=
  let node := f s.node
  let fresh := (List.range (node.nextTask - s.node.nextTask)).map (s.node.nextTask + ·)
  wake { s with node, ready := s.ready ++ fresh }

def runTask (fuel : Nat) (s : Schedule w) (id : Nat) : Schedule w :=
  match fuel with
  | 0 => s
  | fuel + 1 =>
    match s.node.task? id with
    | none => s
    | some t =>
      if s.node.isReady s.now t then
        runTask fuel (s.change fun n => n.stepTask s.now s.stamp t) id
      else { s with waiting := s.waiting ++ [id] }

def runReady (fuel : Nat) (s : Schedule w) : Schedule w :=
  match fuel with
  | 0 => s
  | fuel + 1 =>
    match s.ready with
    | [] => s
    | id :: ready => runReady fuel (runTask fuel { s with ready } id)

/-- The number of steps that are taken at one instant before a node is given up as one that never
comes to rest. -/
def patience : Nat := 1000000

/-- Lets everything run that can. After the end of the input the reading is over with its last
task. -/
def settle (s : Schedule w) : Schedule w :=
  let s := runReady patience s
  if s.input.closed then { s with node := s.node.settle } else s

def isReading (s : Schedule w) : Bool :=
  !s.input.closed && s.node.verdict.isNone

def feed (s : Schedule w) (bytes : List UInt8) : Schedule w :=
  if s.isReading then
    let (lines, rest) := Input.cut (s.input.rest ++ bytes)
    settle ({ s with input := { s.input with rest } }.change fun n => n.receiveLines lines)
  else s

def close (s : Schedule w) : Schedule w :=
  if s.isReading then
    -- What follows the last line end is a line too.
    let last := if s.input.rest.isEmpty then [] else [s.input.rest]
    settle ({ s with input := ⟨[], true⟩ }.change fun n => n.receiveLines last)
  else s

def deadline? (t : Task w.Job) : Option Nat :=
  match t.stage with
  | .flush wait | .wait wait => wait.limit.map (·.1)
  | .sleep wake _ => some wake
  | _ => none

def nextDeadline? (s : Schedule w) : Option Nat :=
  (s.waiting.filterMap fun id => (s.node.task? id).bind deadline?).min?

def moveTo (s : Schedule w) (now : Nat) : Schedule w :=
  wake { s with now := max s.now now }

end Schedule

end ClusterNode
