import IdentityClaims.Json.Value
import IdentityClaims.Number.Double

/-!
# Settings

What a configuration holds, in whatever format it is written. Settings are JSON values but for
the doubles that are no real number, which JSON cannot write.
-/

namespace IdentityClaims

open Number (Double)

inductive Setting where
  | null
  | boolean (value : Bool)
  | integer (value : Int)
  | float (value : Double)
  | text (value : String)
  | array (items : List Setting)
  | table (members : List (String × Setting))
  deriving Repr

namespace Setting

mutual

def ofJson : Json.Value → Setting
  | .null => .null
  | .boolean b => .boolean b
  | .number (.integer n) => .integer n
  | .number (.float x) => .float (.finite x)
  | .string s => .text s
  | .array items => .array (itemsOfJson items)
  | .object members => .table (membersOfJson members)

def itemsOfJson : List Json.Value → List Setting
  | [] => []
  | item :: rest => ofJson item :: itemsOfJson rest

def membersOfJson : List (String × Json.Value) → List (String × Setting)
  | [] => []
  | (name, value) :: rest => (name, ofJson value) :: membersOfJson rest

end

mutual

/-- The JSON value of a setting; null stands for a double that is no real number. -/
def toJson : Setting → Json.Value
  | .null => .null
  | .boolean b => .boolean b
  | .integer n => .number (.integer n)
  | .float (.finite x) => .number (.float x)
  | .float _ => .null
  | .text s => .string s
  | .array items => .array (itemsToJson items)
  | .table members => .object (membersToJson members)

def itemsToJson : List Setting → List Json.Value
  | [] => []
  | item :: rest => item.toJson :: itemsToJson rest

def membersToJson : List (String × Setting) → List (String × Json.Value)
  | [] => []
  | (name, setting) :: rest => (name, setting.toJson) :: membersToJson rest

end

/-- The text that a setting stands for where one is asked for. Numbers and truth values are
written out; anything else has no text. -/
def asText? : Setting → Option String
  | .text s => some s
  | .integer n => some (String.ofList (Number.numeral n))
  | .float x => some (String.ofList x.text)
  | .boolean true => some "true"
  | .boolean false => some "false"
  | _ => none

end Setting

end IdentityClaims
