import ClusterNode.Power

/-!
Spans of time in whole nanoseconds.
-/

set_option autoImplicit false

namespace ClusterNode

structure Duration where
  nanos : Nat
deriving DecidableEq, Repr

namespace Duration

def zero : Duration := ⟨0⟩

def ofMillis (n : Nat) : Duration := ⟨n * 1000000⟩

def ofParts (secs nanos : Nat) : Duration := ⟨secs * 1000000000 + nanos⟩

def millis (d : Duration) : Nat := d.nanos / 1000000

def trimZeros (digits : List Char) : List Char :=
  (digits.reverse.dropWhile (· = '0')).reverse

/-- A number of thousandths, millionths and so on as a decimal with its last zeros dropped. -/
def decimal (n places : Nat) : String :=
  let whole := toString (n / tenTo places)
  let digits := Nat.toDigits 10 (n % tenTo places)
  let fraction := trimZeros (List.replicate (places - digits.length) '0' ++ digits)
  if fraction.isEmpty then whole else whole ++ "." ++ String.ofList fraction

def text (d : Duration) : String :=
  if 1000000000 ≤ d.nanos then decimal d.nanos 9 ++ "s"
  else if 1000000 ≤ d.nanos then decimal d.nanos 6 ++ "ms"
  else if 1000 ≤ d.nanos then decimal d.nanos 3 ++ "µs"
  else decimal d.nanos 0 ++ "ns"

end Duration

end ClusterNode
