/-!
Patterns: regular expressions over text. Of a pattern is kept what decides whether it can be used:
how its parts are nested, the names of its groups, the flags that are set in it, and which of its
characters, classes and edges are written in which way.
-/

set_option autoImplicit false

namespace ClusterNode

namespace Pattern

inductive Flag where
  | ignoreCase
  | manyLines
  | dotIsAny
  | lazy
  | unicode
  | returns
  | spaced
deriving DecidableEq, Repr

def Flag.ofLetter? : Char → Option Flag
  | 'i' => some .ignoreCase
  | 'm' => some .manyLines
  | 's' => some .dotIsAny
  | 'U' => some .lazy
  | 'u' => some .unicode
  | 'R' => some .returns
  | 'x' => some .spaced
  | _ => none

abbrev Flags := List (Flag × Bool)

/-- A character that stands for itself, and whether it is written as a byte. -/
structure Literal where
  char : Char
  isByte : Bool
deriving DecidableEq, Repr

inductive Atom where
  | literal (l : Literal)
  | dot
  /-- A place in a text; whether it is told by the characters that belong to words. -/
  | edge (ofWord : Bool)
  | shorthand (negated : Bool)
deriving DecidableEq, Repr

inductive CharSet where
  | empty
  | literal (l : Literal)
  | range (low high : Literal)
  | named (negated : Bool)
  | shorthand (negated : Bool)
  | brackets (negated : Bool) (set : CharSet)
  | union (sets : List CharSet)
  | operation (left right : CharSet)

end Pattern

inductive Pattern where
  | empty
  | atom (a : Pattern.Atom)
  | brackets (negated : Bool) (set : Pattern.CharSet)
  | change (flags : Pattern.Flags)
  | repetition (p : Pattern)
  /-- A group, with a name if it has one, and with flags for what is in it. -/
  | group (name : Option String) (flags : Pattern.Flags) (p : Pattern)
  | sequence (ps : List Pattern)
  | alternatives (ps : List Pattern)

namespace Pattern

mutual

def CharSet.depth : CharSet → Nat
  | .empty | .literal _ | .range _ _ | .named _ | .shorthand _ => 0
  | .brackets _ set => set.depth + 1
  | .union sets => CharSet.depthAll sets + 1
  | .operation left right => max left.depth right.depth + 1

def CharSet.depthAll : List CharSet → Nat
  | [] => 0
  | set :: sets => max set.depth (CharSet.depthAll sets)

end

mutual

def depth : Pattern → Nat
  | .empty | .atom _ | .change _ => 0
  | .brackets _ set => set.depth + 1
  | .repetition p | .group _ _ p => p.depth + 1
  | .sequence ps | .alternatives ps => depthAll ps + 1

def depthAll : List Pattern → Nat
  | [] => 0
  | p :: ps => max p.depth (depthAll ps)

end

mutual

def names : Pattern → List String
  | .empty | .atom _ | .change _ | .brackets _ _ => []
  | .repetition p => p.names
  | .group name _ p => name.toList ++ p.names
  | .sequence ps | .alternatives ps => namesAll ps

def namesAll : List Pattern → List String
  | [] => []
  | p :: ps => p.names ++ namesAll ps

end

end Pattern

end ClusterNode
