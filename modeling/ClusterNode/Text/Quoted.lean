import ClusterNode.Text.Printable

/-!
Quoted text for diagnostics: a string between double quotes in which every character can be seen.
-/

set_option autoImplicit false

namespace ClusterNode.Text

/-- How a character is shown between quotes: the quote, the backslash and the common blanks by an
escape of one letter, others that do not show by their code point. -/
def showChar (c : Char) : List Char :=
  if c = '\x00' then ['\\', '0']
  else if c = '\t' then ['\\', 't']
  else if c = '\r' then ['\\', 'r']
  else if c = '\n' then ['\\', 'n']
  else if c = '\\' then ['\\', '\\']
  else if c = '"' then ['\\', '"']
  else if isPrintable c then [c]
  else '\\' :: 'u' :: '\x7b' :: (Nat.toDigits 16 c.toNat ++ ['\x7d'])

def quoted (s : String) : String :=
  String.ofList ('"' :: (s.toList.flatMap showChar ++ ['"']))

def quotedList (items : List String) : String :=
  "[" ++ ", ".intercalate (items.map quoted) ++ "]"

end ClusterNode.Text
