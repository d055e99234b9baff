import ClusterNode.Pattern.Basic
import ClusterNode.Text.Alphanumeric
import ClusterNode.Text.Blank

/-!
Patterns as they are written. Each reader gives what it has read and the rest of the text. Nothing
is read of what needs a pair of braces, such as counts of a repetition: patterns are written between
braces and have none of their own.
-/

set_option autoImplicit false

namespace ClusterNode.Pattern

/-- Drops blanks and comments. A comment goes from a number sign to the end of its line. -/
def dropBlanks (inComment : Bool) : List Char → List Char
  | [] => []
  | c :: rest =>
    if inComment then dropBlanks (c ≠ '\n') rest
    else if Text.isBlank c then dropBlanks false rest
    else if c = '#' then dropBlanks true rest
    else c :: rest

def skip (spaced : Bool) (text : List Char) : List Char :=
  if spaced then dropBlanks false text else text

/-- The character that counts next, as far as one number sign and blanks are looked over. -/
def peek? (spaced : Bool) (text : List Char) : Option Char :=
  if spaced then
    match text.dropWhile Text.isBlank with
    | '#' :: rest => (rest.dropWhile Text.isBlank).head?
    | rest => rest.head?
  else text.head?

def hexDigit? (c : Char) : Option Nat :=
  if c.isDigit then some (c.toNat - '0'.toNat)
  else if 'a' ≤ c ∧ c ≤ 'f' then some (c.toNat - 'a'.toNat + 10)
  else if 'A' ≤ c ∧ c ≤ 'F' then some (c.toNat - 'A'.toNat + 10)
  else none

def readHex (spaced : Bool) : Nat → Nat → List Char → Option (Nat × List Char)
  | 0, n, text => some (n, text)
  | count + 1, n, text =>
    match skip spaced text with
    | [] => none
    | c :: rest => (hexDigit? c).bind fun digit => readHex spaced count (16 * n + digit) rest

/-- Reads a character that is written by its number, in some hexadecimal digits. -/
def readCode (spaced : Bool) (digits : Nat) (text : List Char) : Option (Atom × List Char) :=
  (readHex spaced digits 0 text).bind fun (n, rest) =>
    if n.isValidChar then some (.literal ⟨.ofNat n, digits = 2⟩, rest) else none

def isEscapable (c : Char) : Bool :=
  c.toNat < 0x80 && !c.isAlphanum && c ≠ '<' && c ≠ '>'

def readEscape (spaced : Bool) : List Char → Option (Atom × List Char)
  | [] => none
  | c :: rest =>
    if c = 'x' then readCode spaced 2 rest
    else if c = 'u' then readCode spaced 4 rest
    else if c = 'U' then readCode spaced 8 rest
    else if ['d', 's', 'w'].contains c then some (.shorthand false, rest)
    else if ['D', 'S', 'W'].contains c then some (.shorthand true, rest)
    else if ['A', 'z'].contains c then some (.edge false, rest)
    else if ['b', 'B', '<', '>'].contains c then some (.edge true, rest)
    else if isEscapable c || ['a', 'f', 'n', 'r', 't', 'v'].contains c then
      some (.literal ⟨c, false⟩, rest)
    else none

def readAtom (spaced : Bool) : List Char → Option (Atom × List Char)
  | [] => none
  | '\\' :: rest => readEscape spaced rest
  | c :: rest => some (.literal ⟨c, false⟩, rest)

def readMember (spaced : Bool) (text : List Char) : Option (CharSet × List Char) := do
  let (first, rest) ← readAtom spaced text
  let single : Option (CharSet × List Char) :=
    match first with
    | .literal l => some (.literal l, rest)
    | .shorthand negated => some (.shorthand negated, rest)
    | .dot | .edge _ => none
  match skip spaced rest with
  | '-' :: rest =>
    if [some ']', some '-'].contains (peek? spaced rest) then single
    else
      match first, ← readAtom spaced (skip spaced rest) with
      | .literal low, (.literal high, rest) =>
        if low.char ≤ high.char then some (.range low high, rest) else none
      | _, _ => none
  | _ => single

def classNames : List String :=
  ["alnum", "alpha", "ascii", "blank", "cntrl", "digit", "graph", "lower", "print", "punct",
    "space",
    "upper", "word", "xdigit"]

/-- Reads a class by its name after the bracket that begins it, if there is one. -/
def readNamed (text : List Char) : Option (CharSet × List Char) :=
  match text with
  | ':' :: rest =>
    let negated := rest.head? = some '^'
    let rest := if negated then rest.drop 1 else rest
    match rest.dropWhile (· ≠ ':') with
    | ':' :: ']' :: after =>
      if classNames.contains (String.ofList (rest.takeWhile (· ≠ ':'))) then
        some (.named negated, after)
      else none
    | _ => none
  | _ => none

/-- Where the reading of a set stands. In the beginning, dashes and one closing bracket stand for
themselves. -/
inductive SetStage where
  | first
  | dashes
  | inside
deriving DecidableEq, Repr

/-- The set of what has been read, last first, after a left side if there is one. -/
def CharSet.close (left : Option CharSet) (sets : List CharSet) : CharSet :=
  let right : CharSet :=
    match sets with
    | [] => .empty
    | [set] => set
    | sets => .union sets.reverse
  match left with
  | some left => .operation left right
  | none => right

def readNegation (spaced : Bool) (text : List Char) : Bool × List Char :=
  match skip spaced text with
  | '^' :: rest => (true, rest)
  | rest => (false, rest)

def readSet (spaced : Bool) :
    Nat → SetStage → Option CharSet → List CharSet → List Char → Option (CharSet × List Char)
  | 0, _, _, _, _ => none
  | fuel + 1, stage, left, sets, text =>
    match skip spaced text with
    | [] => none
    | c :: rest =>
      if c = '-' ∧ stage ≠ .inside then
        readSet spaced fuel .dashes left (.literal ⟨c, false⟩ :: sets) rest
      else if c = ']' ∧ stage = .first then
        readSet spaced fuel .inside left (.literal ⟨c, false⟩ :: sets) rest
      else if c = ']' then some (.close left sets, rest)
      else if ['&', '-', '~'].contains c ∧ rest.head? = some c then
        readSet spaced fuel .inside (some (.close left sets)) [] (rest.drop 1)
      else if c = '[' then
        match readNamed rest with
        | some (set, rest) => readSet spaced fuel .inside left (set :: sets) rest
        | none =>
          let (negated, rest) := readNegation spaced rest
          match readSet spaced fuel .first none [] rest with
          | some (set, rest) =>
            readSet spaced fuel .inside left (.brackets negated set :: sets) rest
          | none => none
      else
        match readMember spaced (c :: rest) with
        | some (set, rest) => readSet spaced fuel .inside left (set :: sets) rest
        | none => none

/-- Reads flags up to a character that ends them. A minus sign may come once, with flags after it
that are taken back. -/
def readFlags (set : Bool) (flags : Flags) : List Char → Option (Flags × Char × List Char)
  | [] => none
  | c :: rest =>
    if c = ':' ∨ c = ')' then some (flags.reverse, c, rest)
    else if c = '-' then
      if set ∧ rest.head? ≠ some ':' ∧ rest.head? ≠ some ')' then
        readFlags false flags rest
      else none
    else
      match Flag.ofLetter? c with
      | some flag =>
        if (flags.lookup flag).isSome then none else readFlags set ((flag, set) :: flags) rest
      | none => none

def isName : List Char → Bool
  | [] => false
  | c :: rest =>
    (c = '_' || Text.isAlphabetic c)
      && rest.all fun c => ['_', '.', '[', ']'].contains c || Text.isAlphanumeric c

def readName (text : List Char) : Option (String × List Char) :=
  let name := text.takeWhile (· ≠ '>')
  match text.dropWhile (· ≠ '>') with
  | _ :: rest => if isName name then some (String.ofList name, rest) else none
  | [] => none

inductive Opening where
  | change (flags : Flags)
  | group (name : Option String) (flags : Flags)

def readOpening : List Char → Option (Opening × List Char)
  | '?' :: 'P' :: '<' :: rest | '?' :: '<' :: rest =>
    (readName rest).map fun (name, rest) => (.group (some name) [], rest)
  | '?' :: rest =>
    match readFlags true [] rest with
    | some (flags, ':', rest) => some (.group none flags, rest)
    | some (flags, _, rest) => if flags.isEmpty then none else some (.change flags, rest)
    | none => none
  | rest => some (.group none [], rest)

def canRepeat : Pattern → Bool
  | .empty | .change _ => false
  | _ => true

def ofParts : List Pattern → Pattern
  | [] => .empty
  | [p] => p
  | ps => .sequence ps.reverse

def ofChoices : List Pattern → Pattern
  | [p] => p
  | ps => .alternatives ps.reverse

/-- Reads a pattern to the end of its group or of the text. The choices and the parts that have been
read are given last first. -/
def readGroup : Nat → Bool → List Pattern → List Pattern → List Char → Option (Pattern × List Char)
  | 0, _, _, _, _ => none
  | fuel + 1, spaced, choices, parts, text =>
    match skip spaced text with
    | [] => some (ofChoices (ofParts parts :: choices), [])
    | c :: rest =>
      if c = ')' then some (ofChoices (ofParts parts :: choices), c :: rest)
      else if c = '|' then readGroup fuel spaced (ofParts parts :: choices) [] rest
      else if c = '(' then
        match readOpening (skip spaced rest) with
        | some (.change flags, rest) =>
          readGroup fuel ((flags.lookup .spaced).getD spaced) choices (.change flags :: parts) rest
        | some (.group name flags, rest) =>
          match readGroup fuel ((flags.lookup .spaced).getD spaced) [] [] rest with
          | some (p, _ :: rest) => readGroup fuel spaced choices (.group name flags p :: parts) rest
          | _ => none
        | none => none
      else if c = '[' then
        let (negated, rest) := readNegation spaced rest
        match readSet spaced (rest.length + 1) .first none [] rest with
        | some (set, rest) => readGroup fuel spaced choices (.brackets negated set :: parts) rest
        | none => none
      else if ['?', '*', '+'].contains c then
        match parts with
        | p :: parts =>
          if p.canRepeat then
            let rest := if rest.head? = some '?' then rest.drop 1 else rest
            readGroup fuel spaced choices (.repetition p :: parts) rest
          else none
        | [] => none
      else if c = '\x7b' then none
      else if c = '^' ∨ c =
        '$' then readGroup fuel spaced choices (.atom (.edge false) :: parts) rest
      else if c = '.' then readGroup fuel spaced choices (.atom .dot :: parts) rest
      else
        match readAtom spaced (c :: rest) with
        | some (a, rest) => readGroup fuel spaced choices (.atom a :: parts) rest
        | none => none

/-- The pattern that a text writes. Reading a character takes one unit of fuel at most. -/
def read? (text : List Char) : Option Pattern :=
  match readGroup (text.length + 1) false [] [] text with
  | some (p, []) => some p
  | _ => none

end ClusterNode.Pattern
