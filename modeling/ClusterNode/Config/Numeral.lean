/-!
Numerals: numbers as they are written in settings, in decimal digits after an optional sign.
-/

set_option autoImplicit false

namespace ClusterNode.Numeral

def ofDigits? (digits : List Char) : Option Nat :=
  if digits.isEmpty then none
  else digits.foldlM (fun n c => if c.isDigit then some (10 * n + (c.toNat - '0'.toNat)) else none)
    0

def natural? (text : String) : Option Nat :=
  match text.toList with
  | '+' :: digits => ofDigits? digits
  | digits => ofDigits? digits

def integer? (text : String) : Option Int :=
  match text.toList with
  | '-' :: digits => (ofDigits? digits).map fun n => -n
  | _ => (natural? text).map Int.ofNat

def isExponent : List Char → Bool
  | [] => true
  | c :: rest =>
    let digits :=
      match rest with
      | '+' :: digits | '-' :: digits => digits
      | digits => digits
    (c = 'e' || c = 'E') && !digits.isEmpty && digits.all Char.isDigit

/-- Whether a text is a decimal number, which may have either sign, or a word for what is no finite
number. -/
def isDecimal (text : List Char) : Bool :=
  let text :=
    match text with
    | '+' :: rest | '-' :: rest => rest
    | rest => rest
  let whole := text.takeWhile Char.isDigit
  let (fraction, exponent) :=
    match text.dropWhile Char.isDigit with
    | '.' :: rest => (rest.takeWhile Char.isDigit, rest.dropWhile Char.isDigit)
    | rest => ([], rest)
  ["inf", "infinity", "nan"].contains (String.ofList (text.map Char.toLower))
    || (!(whole.isEmpty && fraction.isEmpty) && isExponent exponent)

end ClusterNode.Numeral
