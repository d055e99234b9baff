import ClusterNode.Json.Basic

/-!
The text of a JSON value: compact, fields in the order of the dictionary. In strings the quote, the
backslash and the control characters are escaped and everything else stands for itself.
-/

set_option autoImplicit false

namespace ClusterNode.Json

def hexDigit (n : Nat) : Char :=
  Nat.digitChar n

def escape (c : Char) : List Char :=
  if c = '"' then ['\\', '"']
  else if c = '\\' then ['\\', '\\']
  else if c = '\n' then ['\\', 'n']
  else if c = '\r' then ['\\', 'r']
  else if c = '\t' then ['\\', 't']
  else if c = '\x08' then ['\\', 'b']
  else if c = '\x0c' then ['\\', 'f']
  else if c.toNat < 0x20 then
    ['\\', 'u', '0', '0', hexDigit (c.toNat / 16), hexDigit (c.toNat % 16)]
  else [c]

def quote (s : String) : List Char :=
  '"' :: (s.toList.flatMap escape ++ ['"'])

mutual

def chars : Json → List Char
  | .null => "null".toList
  | .bool true => "true".toList
  | .bool false => "false".toList
  | .number n => n.chars
  | .string s => quote s
  | .array [] => ['[', ']']
  | .array (v :: rest) => '[' :: (chars v ++ tailItems rest)
  | .object [] => ['\x7b', '\x7d']
  | .object ((k, v) :: rest) => '\x7b' :: (quote k ++ ':' :: (chars v ++ tailFields rest))

def tailItems : List Json → List Char
  | [] => [']']
  | v :: rest => ',' :: (chars v ++ tailItems rest)

def tailFields : List (String × Json) → List Char
  | [] => ['\x7d']
  | (k, v) :: rest => ',' :: (quote k ++ ':' :: (chars v ++ tailFields rest))

end

def text (v : Json) : String :=
  String.ofList v.chars

end ClusterNode.Json
