import ClusterNode.Json.Basic
import ClusterNode.Text.Quoted

/-!
Mismatches: why a JSON value does not have the form that a reader asks for.
-/

set_option autoImplicit false

namespace ClusterNode

inductive Found where
  | null
  | boolean (b : Bool)
  | integer (n : Int)
  | double (x : Double)
  | string (s : String)
  | sequence
  | map
deriving DecidableEq

inductive Expected where
  | string
  | unsigned
  | signed
  | boolean
  | sequence
  | map
  | number
  | envelope
  | errorBody
  | tagged (payload : String)
  | variantName
deriving DecidableEq

inductive ExpectedLength where
  | envelope
  | errorBody
  | variant (payload name : String) (count : Nat)
  | exactly (count : Nat)
  | fewer
deriving DecidableEq

inductive Mismatch where
  | wrongType (found : Found) (expected : Expected)
  | outOfRange (n : Int) (expected : Expected)
  | wrongLength (count : Nat) (expected : ExpectedLength)
  | missingField (name : String)
  | duplicateField (name : String)
  | unknownVariant (name : String) (known : List String)
deriving DecidableEq

def Found.ofNumber : Number → Found
  | .unsigned n => .integer n.toNat
  | .negative n => .integer n.val.toInt
  | .double x => .double x

def Found.ofJson : Json → Found
  | .null => .null
  | .bool b => .boolean b
  | .number n => .ofNumber n
  | .string s => .string s
  | .array _ => .sequence
  | .object _ => .map

def Found.text : Found → String
  | .null => "null"
  | .boolean true => "boolean `true`"
  | .boolean false => "boolean `false`"
  | .integer n => "integer `" ++ String.ofList (Number.intText n) ++ "`"
  | .double x => "floating point `" ++ String.ofList (Number.doubleText x) ++ "`"
  | .string s => "string " ++ Text.quoted s
  | .sequence => "sequence"
  | .map => "map"

def Expected.text : Expected → String
  | .string => "a string"
  | .unsigned => "u64"
  | .signed => "i64"
  | .boolean => "a boolean"
  | .sequence => "a sequence"
  | .map => "a map"
  | .number => "a JSON number"
  | .envelope => "struct Message"
  | .errorBody => "struct ErrorBody"
  | .tagged payload => "internally tagged enum " ++ payload
  | .variantName => "variant identifier"

def elementsText (count : Nat) : String :=
  if count = 1 then "1 element" else toString count ++ " elements"

def ExpectedLength.text : ExpectedLength → String
  | .envelope => "struct Message with " ++ elementsText 3
  | .errorBody => "struct ErrorBody with " ++ elementsText 3
  | .variant payload name count =>
    "struct variant " ++ payload ++ "::" ++ name ++ " with " ++ elementsText count
  | .exactly count => elementsText count ++ " in sequence"
  | .fewer => "fewer elements in array"

def nameText (name : String) : String :=
  "`" ++ name ++ "`"

def choiceText : List String → String
  | [] => "there are no variants"
  | [a] => "expected " ++ nameText a
  | [a, b] => "expected " ++ nameText a ++ " or " ++ nameText b
  | names => "expected one of " ++ ", ".intercalate (names.map nameText)

def Mismatch.message : Mismatch → String
  | .wrongType found expected => "invalid type: " ++ found.text ++ ", expected " ++ expected.text
  | .outOfRange n expected =>
    "invalid value: " ++ (Found.integer n).text ++ ", expected " ++ expected.text
  | .wrongLength count expected =>
    "invalid length " ++ toString count ++ ", expected " ++ expected.text
  | .missingField name => "missing field " ++ nameText name
  | .duplicateField name => "duplicate field " ++ nameText name
  | .unknownVariant name known => "unknown variant " ++ nameText name ++ ", " ++ choiceText known

end ClusterNode
