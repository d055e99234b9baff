import ClusterNode.Json.Basic

/-!
Reading JSON text from left to right. The first problem decides: text that ends too early is
truncated, anything else that is no JSON is malformed. A value may also be skipped, which checks its
form but neither the range of its numbers, nor the pairing of its surrogates, nor its depth.
-/

set_option autoImplicit false

namespace ClusterNode.Json

inductive Fault where
  | malformed
  | truncated
deriving DecidableEq, Repr

def skipBlanks : List Char → List Char
  | [] => []
  | c :: rest =>
    if c = ' ' ∨ c = '\n' ∨ c = '\t' ∨ c = '\r' then skipBlanks rest else c :: rest

def expect : List Char → List Char → Except Fault (List Char)
  | [], s => .ok s
  | _ :: _, [] => .error .truncated
  | c :: rest, d :: s => if c = d then expect rest s else .error .malformed

def expectMark (c : Char) (s : List Char) : Except Fault (List Char) :=
  expect [c] (skipBlanks s)

def hexValue? (c : Char) : Option Nat :=
  if '0' ≤ c ∧ c ≤ '9' then some (c.toNat - '0'.toNat)
  else if 'a' ≤ c ∧ c ≤ 'f' then some (c.toNat - 'a'.toNat + 10)
  else if 'A' ≤ c ∧ c ≤ 'F' then some (c.toNat - 'A'.toNat + 10)
  else none

def hexQuad? (a b c d : Char) : Option Nat := do
  let a ← hexValue? a
  let b ← hexValue? b
  let c ← hexValue? c
  let d ← hexValue? d
  return ((a * 16 + b) * 16 + c) * 16 + d

/-- What is wrong with an escape that has no four digits: fewer than four bytes are left, or they
are no digits. -/
def quadFault (s : List Char) : Fault :=
  if s.foldl (fun n c => n + c.utf8Size) 0 < 4 then .truncated else .malformed

def unescape? (c : Char) : Option Char :=
  if c = '"' then some '"'
  else if c = '\\' then some '\\'
  else if c = '/' then some '/'
  else if c = 'b' then some '\x08'
  else if c = 'f' then some '\x0c'
  else if c = 'n' then some '\n'
  else if c = 'r' then some '\r'
  else if c = 't' then some '\t'
  else none

def push (c : Char) : Except Fault (List Char × List Char) → Except Fault (List Char × List Char)
  | .ok (text, rest) => .ok (c :: text, rest)
  | .error fault => .error fault

def joinSurrogates (high low : Nat) : Char :=
  Char.ofNat ((high - 0xD800) * 0x400 + (low - 0xDC00) + 0x10000)

/-- Reads a string after its opening quote. Surrogates must come in pairs. -/
def stringTail : List Char → Except Fault (List Char × List Char)
  | [] => .error .truncated
  | c :: rest =>
    if c = '"' then .ok ([], rest)
    else if c = '\\' then
      match rest with
      | [] => .error .truncated
      | 'u' :: a :: b :: c :: d :: rest =>
        match hexQuad? a b c d with
        | none => .error .malformed
        | some n =>
          -- The second half of a pair cannot come first, and a first half must have its second.
          if 0xDC00 ≤ n ∧ n ≤ 0xDFFF then .error .malformed
          else if n < 0xD800 ∨ 0xDBFF < n then push (Char.ofNat n) (stringTail rest)
          else
            match rest with
            | [] => .error .truncated
            | '\\' :: [] => .error .truncated
            | '\\' :: 'u' :: e :: f :: g :: h :: rest =>
              match hexQuad? e f g h with
              | none => .error .malformed
              | some m =>
                if 0xDC00 ≤ m ∧ m ≤ 0xDFFF then push (joinSurrogates n m) (stringTail rest)
                else .error .malformed
            | '\\' :: 'u' :: rest => .error (quadFault rest)
            | _ => .error .malformed
      | e :: rest =>
        if e = 'u' then .error (quadFault rest)
        else
          match unescape? e with
          | some c => push c (stringTail rest)
          | none => .error .malformed
    else if c.toNat < 0x20 then .error .malformed
    else push c (stringTail rest)

def skipStringTail : List Char → Except Fault (List Char)
  | [] => .error .truncated
  | c :: rest =>
    if c = '"' then .ok rest
    else if c = '\\' then
      match rest with
      | [] => .error .truncated
      | 'u' :: a :: b :: c :: d :: rest =>
        if (hexQuad? a b c d).isSome then skipStringTail rest else .error .malformed
      | e :: rest =>
        if e = 'u' then .error (quadFault rest)
        else if (unescape? e).isSome then skipStringTail rest
        else .error .malformed
    else if c.toNat < 0x20 then .error .malformed
    else skipStringTail rest

def digits1 (s : List Char) : Except Fault (List Char × List Char) :=
  match s with
  | [] => .error .truncated
  | c :: _ =>
    if c.isDigit then .ok (s.takeWhile Char.isDigit, s.dropWhile Char.isDigit)
    else .error .malformed

def readFraction : List Char → Except Fault (List Char × List Char)
  | '.' :: s => digits1 s
  | s => .ok ([], s)

def readExponent (s : List Char) : Except Fault (Option (Bool × List Char) × List Char) :=
  match s with
  | [] => .ok (none, s)
  | mark :: rest =>
    if mark = 'e' ∨ mark = 'E' then do
      let (isNegative, unsigned) :=
        match rest with
        | '+' :: r => (false, r)
        | '-' :: r => (true, r)
        | r => (false, r)
      let (digits, after) ← digits1 unsigned
      return (some (isNegative, digits), after)
    else .ok (none, s)

def readLiteral (negative : Bool) (s : List Char) : Except Fault (Literal × List Char) := do
  let (whole, s) ← digits1 s
  if whole.head? = some '0' ∧ 1 < whole.length then .error .malformed
  else
    let (fraction, s) ← readFraction s
    let (exponent, s) ← readExponent s
    return (⟨negative, whole, fraction, exponent⟩, s)

def literalFrom (first : Char) (rest : List Char) : Except Fault (Literal × List Char) :=
  if first = '-' then readLiteral true rest else readLiteral false (first :: rest)

/-- Reads a number that starts with the given character; a literal too large for a double is
malformed. -/
def numberFrom (first : Char) (rest : List Char) : Except Fault (Number × List Char) := do
  let (literal, rest) ← literalFrom first rest
  match literal.value? with
  | some n => return (n, rest)
  | none => .error .malformed

/-- Skips a number that starts with the given character. One that breaks off is malformed, even if
it does so at the end of the text. -/
def skipNumber (first : Char) (rest : List Char) : Except Fault (List Char) :=
  match literalFrom first rest with
  | .ok (_, rest) => .ok rest
  | .error _ => .error .malformed

def readKey (s : List Char) : Except Fault (String × List Char) := do
  let s ← expectMark '"' s
  let (text, s) ← stringTail s
  let s ← expectMark ':' s
  return (String.ofList text, s)

def skipKey (s : List Char) : Except Fault (List Char) := do
  let s ← expectMark '"' s
  let s ← skipStringTail s
  expectMark ':' s

def separator (close : Char) (s : List Char) : Except Fault (Bool × List Char) :=
  match skipBlanks s with
  | [] => .error .truncated
  | c :: rest =>
    if c = ',' then .ok (true, rest)
    else if c = close then .ok (false, rest)
    else .error .malformed

mutual

/-- Reads a value in which `depth` more arrays and objects may be opened. The fuel bounds the number
of values begun. -/
def readValue (fuel depth : Nat) (s : List Char) : Except Fault (Json × List Char) :=
  match fuel with
  | 0 => .error .truncated
  | fuel + 1 =>
    match skipBlanks s with
    | [] => .error .truncated
    | c :: rest =>
      if c = '"' then do
        let (text, rest) ← stringTail rest
        return (.string (String.ofList text), rest)
      else if c = '[' then
        match depth with
        | 0 => .error .malformed
        | depth + 1 => do
          let (items, rest) ← readArray fuel depth rest
          return (.array items, rest)
      else if c = '\x7b' then
        match depth with
        | 0 => .error .malformed
        | depth + 1 => do
          let (fields, rest) ← readObject fuel depth rest
          -- Of several values for one key the last one stays.
          return (.object (Dictionary.ofList fields), rest)
      else if c = '-' ∨ c.isDigit then do
        let (n, rest) ← numberFrom c rest
        return (.number n, rest)
      else if c = 'n' then do
        let rest ← expect "ull".toList rest
        return (.null, rest)
      else if c = 't' then do
        let rest ← expect "rue".toList rest
        return (.bool true, rest)
      else if c = 'f' then do
        let rest ← expect "alse".toList rest
        return (.bool false, rest)
      else .error .malformed

def readArray (fuel depth : Nat) (s : List Char) : Except Fault (List Json × List Char) :=
  match fuel with
  | 0 => .error .truncated
  | fuel + 1 =>
    match skipBlanks s with
    | [] => .error .truncated
    | ']' :: rest => .ok ([], rest)
    | _ => readItems fuel depth s

def readItems (fuel depth : Nat) (s : List Char) : Except Fault (List Json × List Char) :=
  match fuel with
  | 0 => .error .truncated
  | fuel + 1 => do
    let (v, s) ← readValue fuel depth s
    let (more, s) ← separator ']' s
    if more then
      let (rest, s) ← readItems fuel depth s
      return (v :: rest, s)
    else return ([v], s)

/-- Reads an object after its opening brace, with its fields as they stand. -/
def readObject (fuel depth : Nat) (s : List Char) :
    Except Fault (List (String × Json) × List Char) :=
  match fuel with
  | 0 => .error .truncated
  | fuel + 1 =>
    match skipBlanks s with
    | [] => .error .truncated
    | '\x7d' :: rest => .ok ([], rest)
    | _ => readFields fuel depth s

def readFields (fuel depth : Nat) (s : List Char) :
    Except Fault (List (String × Json) × List Char) :=
  match fuel with
  | 0 => .error .truncated
  | fuel + 1 => do
    let (k, s) ← readKey s
    let (v, s) ← readValue fuel depth s
    let (more, s) ← separator '\x7d' s
    if more then
      let (rest, s) ← readFields fuel depth s
      return ((k, v) :: rest, s)
    else return ([(k, v)], s)

end

mutual

def skipValue (fuel : Nat) (s : List Char) : Except Fault (List Char) :=
  match fuel with
  | 0 => .error .truncated
  | fuel + 1 =>
    match skipBlanks s with
    | [] => .error .truncated
    | c :: rest =>
      if c = '"' then skipStringTail rest
      else if c = '[' then
        match skipBlanks rest with
        | ']' :: rest => .ok rest
        | [] => .error .truncated
        | _ => skipItems fuel rest
      else if c = '\x7b' then
        match skipBlanks rest with
        | '\x7d' :: rest => .ok rest
        | [] => .error .truncated
        | _ => skipFields fuel rest
      else if c = '-' ∨ c.isDigit then skipNumber c rest
      else if c = 'n' then expect "ull".toList rest
      else if c = 't' then expect "rue".toList rest
      else if c = 'f' then expect "alse".toList rest
      else .error .malformed

def skipItems (fuel : Nat) (s : List Char) : Except Fault (List Char) :=
  match fuel with
  | 0 => .error .truncated
  | fuel + 1 => do
    let s ← skipValue fuel s
    let (more, s) ← separator ']' s
    if more then skipItems fuel s else return s

def skipFields (fuel : Nat) (s : List Char) : Except Fault (List Char) :=
  match fuel with
  | 0 => .error .truncated
  | fuel + 1 => do
    let s ← skipKey s
    let s ← skipValue fuel s
    let (more, s) ← separator '\x7d' s
    if more then skipFields fuel s else return s

end

def finish (s : List Char) : Except Fault Unit :=
  match skipBlanks s with
  | [] => .ok ()
  | _ :: _ => .error .malformed

def depthLimit : Nat := 127

/-- Enough fuel for a text: each value, array and object begins with a character of its own. -/
def fuelFor (s : List Char) : Nat :=
  3 * s.length + 3

def read (s : List Char) : Except Fault Json := do
  let (v, rest) ← readValue (fuelFor s) depthLimit s
  finish rest
  return v

def ofText? (s : String) : Option Json :=
  (read s.toList).toOption

end ClusterNode.Json
