import ClusterNode.Config.Numeral
import ClusterNode.Pattern.Validity

/-!
Log filters: directives with commas between them. A directive is a level, or a target that may be
followed by a span with fields in brackets and by an equals sign and a level. Whether a text is such
a filter is all that is told here.

Blanks around a directive are dropped to read it, but its parts are cut out of the text as it was
before, at the bytes at which they stand without the blanks. So a directive with blanks before it is
read with parts that are not quite its own, and a cut may fall within a character.
-/

set_option autoImplicit false

namespace ClusterNode.LogFilter

inductive Fault where
  | malformed
  /-- A part would begin or end within a character. -/
  | splitCharacter
deriving DecidableEq, Repr

/-- Whether a text is a level: a word in any case, or a number up to five. -/
def isLevel (text : List Char) : Bool :=
  let word := String.ofList (text.map Char.toLower)
  ["error", "warn", "info", "debug", "trace", "off"].contains word
    || match Numeral.natural? word with
      | some n => n ≤ 5
      | none => false

def value? (field : List Char) : Option (List Char) :=
  match field.dropWhile (· ≠ '=') with
  | _ :: rest => some (rest.takeWhile (· ≠ '='))
  | [] => none

/-- Whether a text is a field: not empty, and with a number or a pattern for its value. -/
def isField (text : List Char) : Bool :=
  !text.isEmpty && (value? text).all fun value => Numeral.isDecimal value || Pattern.isValid value

def dropBytes : List Char → Nat → Option (List Char)
  | text, 0 => some text
  | [], _ + 1 => none
  | c :: text, n + 1 => if c.utf8Size ≤ n + 1 then dropBytes text (n + 1 - c.utf8Size) else none

def takeBytes : List Char → Nat → Option (List Char)
  | _, 0 => some []
  | [], _ + 1 => none
  | c :: text, n + 1 =>
    if c.utf8Size ≤ n + 1 then (takeBytes text (n + 1 - c.utf8Size)).map (c :: ·) else none

def cutFrom (text : List Char) (start : Nat) : Except Fault (List Char) :=
  match dropBytes text start with
  | some rest => .ok rest
  | none => .error .splitCharacter

def cut (text : List Char) (start stop : Nat) : Except Fault (List Char) :=
  match (dropBytes text start).bind fun rest => takeBytes rest (stop - start) with
  | some part => .ok part
  | none => .error .splitCharacter

/-- Where the reading of a directive stands, with the byte at which the part being read begins. -/
inductive State where
  | start
  | target
  | span (start : Nat)
  | field (start : Nat)
  | fields
  | after
  | level (start : Nat)
deriving DecidableEq, Repr

def canBegin (c : Char) : Bool :=
  c = '-' || c = ':' || c = '_' || Text.isAlphanumeric c

def step (text : List Char) (here : Nat) (state : State) (c : Char) : Except Fault State :=
  match state with
  | .start =>
    if c = '[' then .ok (.span (here + 1))
    else if canBegin c then .ok .target
    else .error .malformed
  | .target =>
    if c = '=' then do let _ ← cut text 0 here; return .level (here + 1)
    else if c = '[' then do let _ ← cut text 0 here; return .span (here + 1)
    else .ok .target
  | .span start =>
    if c = ']' then do let _ ← cut text start here; return .after
    else if c = '\x7b' then do let _ ← cut text start here; return .field (here + 1)
    else .ok (.span start)
  | .field start =>
    if c = '\x7d' then do
      if isField (← cut text start here) then return .fields else throw .malformed
    else .ok (.field start)
  | .fields => if c = ']' then .ok .after else .error .malformed
  | .after => if c = '=' then .ok (.level (here + 1)) else .error .malformed
  | .level start => .ok (.level start)

def readFrom (text : List Char) : Nat → State → List Char → Except Fault State
  | _, state, [] => .ok state
  | here, state, c :: rest => do
    readFrom text (here + c.utf8Size) (← step text here state c) rest

def finish (text : List Char) : State → Except Fault Unit
  | .target | .after => .ok ()
  | .level start => do
    let level ← cutFrom text start
    if level.isEmpty || isLevel level then return () else throw .malformed
  | _ => .error .malformed

def checkDirective (text : List Char) : Except Fault Unit := do
  -- Positions are counted without the blanks in front, though parts are cut out of the whole text.
  finish text (← readFrom text 0 .start (Text.trimBlanks text))

def pieces : List Char → List (List Char)
  | [] => [[]]
  | c :: rest =>
    if c = ',' then [] :: pieces rest
    else
      match pieces rest with
      | piece :: more => (c :: piece) :: more
      | [] => [[c]]

def check (text : String) : Except Fault Unit :=
  ((pieces text.toList).filter fun piece => !piece.isEmpty).forM checkDirective

end ClusterNode.LogFilter
