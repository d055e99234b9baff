import ClusterNode.Node.Step
import ClusterNode.Text.Utf8

/-!
Input of a node: bytes that arrive in pieces and are cut into lines. A line that is not UTF-8 ends
the reading of input. The end of a line is no part of it.
-/

set_option autoImplicit false

namespace ClusterNode

/-- The bytes that have arrived and are no whole line yet, and whether more may come. -/
structure Input where
  rest : List UInt8
  closed : Bool

namespace Input

def empty : Input := ⟨[], false⟩

def newline : UInt8 := 10

def carriageReturn : UInt8 := 13

def withoutEnd (line : List UInt8) : List UInt8 :=
  if line.getLast? = some newline then
    let line := line.dropLast
    if line.getLast? = some carriageReturn then line.dropLast else line
  else line

/-- Cuts whole lines off, with their ends, and keeps what follows the last of them. -/
def cut : List UInt8 → List (List UInt8) × List UInt8
  | [] => ([], [])
  | b :: rest =>
    let (lines, last) := cut rest
    if b = newline then ([b] :: lines, last)
    else
      match lines with
      | [] => ([], b :: last)
      | line :: lines => ((b :: line) :: lines, last)

end Input

namespace Node

variable {w : Workload}

def receiveBytes (n : Node w) (line : List UInt8) : Node w :=
  if n.verdict.isSome then n
  else
    match Text.Utf8.decode (Input.withoutEnd line) with
    | .ok text => n.receive text
    | .error fault => n.stop (.io fault.message)

def receiveLines (n : Node w) (lines : List (List UInt8)) : Node w :=
  lines.foldl receiveBytes n

end Node

end ClusterNode
