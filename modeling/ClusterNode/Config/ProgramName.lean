import ClusterNode.Config.Setting

/-!
Program names: a program that is named for a workload serves it.
-/

set_option autoImplicit false

namespace ClusterNode.ProgramName

def parts : List Char → List (List Char)
  | [] => [[]]
  | c :: rest =>
    if c = '/' then [] :: parts rest
    else
      match parts rest with
      | part :: more => (c :: part) :: more
      | [] => [[c]]

/-- The last part of a path that names something. A path to the directory above names nothing. -/
def fileName? (path : List Char) : Option (List Char) :=
  match ((parts path).filter fun part => part ≠ [] ∧ part ≠ ['.']).getLast? with
  | some part => if part = ['.', '.'] then none else some part
  | none => none

/-- A file name without its last extension. A name that only begins with a dot has none. -/
def stem (name : List Char) : List Char :=
  match name.reverse.dropWhile (· ≠ '.') with
  | _ :: before => if before = [] then name else before.reverse
  | [] => name

def after? : List Char → List Char → Option (List Char)
  | [], text => some text
  | c :: start, d :: text => if c = d then after? start text else none
  | _ :: _, [] => none

def workload? (program : String) : Option WorkloadName := do
  let name ← fileName? program.toList
  let word ← after? "maelstrom-".toList (stem name)
  WorkloadName.ofWord? (String.ofList word)

end ClusterNode.ProgramName
