import IdentityClaims.Json.Value
import IdentityClaims.Number.Shortest

/-!
# Printing of JSON values

The text of a value, without blanks. A double is written with a point, so that it is read back
as a double and not as an integer.
-/

namespace IdentityClaims.Json

def hexDigit (n : Nat) : Char :=
  if n < 10 then Char.ofNat (0x30 + n) else Char.ofNat (0x61 + n - 10)

def quotedChar (c : Char) : List Char :=
  if c = '"' || c = '\\' then ['\\', c]
  else if c.toNat < 0x20 then
    ['\\', 'u', '0', '0', hexDigit (c.toNat / 16), hexDigit (c.toNat % 16)]
  else [c]

def quoted (text : String) : String :=
  String.ofList ('"' :: text.toList.flatMap quotedChar ++ ['"'])

def Number.literal : Number → String
  | .integer n => String.ofList (Number.numeral n)
  | .float x => if '.' ∈ x.text then String.ofList x.text else String.ofList x.text ++ ".0"

namespace Value

mutual

def render : Value → String
  | .null => "null"
  | .boolean true => "true"
  | .boolean false => "false"
  | .number n => n.literal
  | .string s => quoted s
  | .array items => "[" ++ renderItems items ++ "]"
  | .object members => "\x7b" ++ renderMembers members ++ "\x7d"

def renderItems : List Value → String
  | [] => ""
  | [item] => item.render
  | item :: rest => item.render ++ "," ++ renderItems rest

def renderMembers : List (String × Value) → String
  | [] => ""
  | [(key, item)] => quoted key ++ ":" ++ item.render
  | (key, item) :: rest => quoted key ++ ":" ++ item.render ++ "," ++ renderMembers rest

end

end Value

end IdentityClaims.Json
