import ClusterNode.Pattern.Parser

/-!
Patterns that can be used. No tables of Unicode are at hand, so there are neither classes nor edges
of words nor letters without case, unless Unicode is switched off; and a pattern in which it is
switched off must not reach into the bytes of a character.
-/

set_option autoImplicit false

namespace ClusterNode.Pattern

structure Mode where
  ignoreCase : Bool
  unicode : Bool
deriving DecidableEq, Repr

namespace Mode

def initial : Mode := ⟨false, true⟩

def change (m : Mode) (flags : Flags) : Mode where
  ignoreCase := (flags.lookup .ignoreCase).getD m.ignoreCase
  unicode := (flags.lookup .unicode).getD m.unicode

def admitsLiteral (m : Mode) (l : Literal) : Bool :=
  if m.unicode then !m.ignoreCase else !l.isByte || l.char.toNat < 0x80

def admitsMember (m : Mode) (l : Literal) : Bool :=
  if m.unicode then !m.ignoreCase else l.char.toNat < 0x80

def admits (m : Mode) : Atom → Bool
  | .literal l => m.admitsLiteral l
  | .dot => m.unicode
  | .edge ofWord => !(ofWord && m.unicode)
  | .shorthand negated => !m.unicode && !negated

mutual

def admitsSet (m : Mode) : CharSet → Bool
  | .empty => true
  | .literal l => m.admitsMember l
  | .range low high => m.admitsMember low && m.admitsMember high
  | .named negated => if m.unicode then !m.ignoreCase else !negated
  | .shorthand negated => !m.unicode && !negated
  | .brackets negated set => (m.unicode || !negated) && m.admitsSet set
  | .union sets => m.admitsSets sets
  | .operation left right => m.admitsSet left && m.admitsSet right

def admitsSets (m : Mode) : List CharSet → Bool
  | [] => true
  | set :: sets => m.admitsSet set && m.admitsSets sets

end

end Mode

mutual

/-- The flags after a pattern, if it can be used. Flags last to the end of the group. -/
def modeAfter? (m : Mode) : Pattern → Option Mode
  | .empty => some m
  | .atom a => if m.admits a then some m else none
  | .brackets negated set => if m.admitsSet (.brackets negated set) then some m else none
  | .change flags => some (m.change flags)
  | .repetition p => modeAfter? m p
  | .group _ flags p => (modeAfter? (m.change flags) p).map fun _ => m
  | .sequence ps | .alternatives ps => modeAfterAll? m ps

def modeAfterAll? (m : Mode) : List Pattern → Option Mode
  | [] => some m
  | p :: ps => (modeAfter? m p).bind fun m => modeAfterAll? m ps

end

def depthLimit : Nat := 250

def isUsable (p : Pattern) : Bool :=
  p.depth ≤ depthLimit && p.names.Nodup && (modeAfter? .initial p).isSome

def isValid (text : List Char) : Bool :=
  (read? text).any isUsable

end ClusterNode.Pattern
