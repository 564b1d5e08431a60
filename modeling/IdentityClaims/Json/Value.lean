import IdentityClaims.Json.Document
import IdentityClaims.Number.Binary64
import IdentityClaims.Table

/-!
# JSON values

What a document means as data: an object is a table in which a repeated key keeps its last
value, and a number is an integer of 64 bits or else the nearest double. Documents with a number
past the largest double, with an escape that stands for no character, or nested too deeply have
no value.
-/

namespace IdentityClaims.Json

open IdentityClaims.Number

/-- A number: an integer in `-2 ^ 63 … 2 ^ 64 - 1`, or a finite double. -/
inductive Number where
  | integer (value : Int)
  | float (value : Binary64)
  deriving DecidableEq, Repr

namespace Number

/-- The value of a numeral. A whole numeral within the integers is an integer, save for `-0`;
every other one is a double, and one past the largest double has no value. -/
def ofNumeral? (n : Numeral) : Option Number :=
  let value : Int := if n.negative then -(n.coefficient : Int) else n.coefficient
  if n.whole && isWord64 value && !(n.negative && n.coefficient == 0) then
    some (.integer value)
  else (Binary64.ofDecimal? n.negative n.coefficient n.scale).map .float

/-- The nearest integer, a half away from zero (`render_rounded`). -/
def round : Number → Int
  | .integer n => n
  | .float x => x.round

def render (n : Number) : String :=
  String.ofList (numeral n.round)

end Number

inductive Kind where
  | null | boolean | number | string | array | object
  deriving DecidableEq, Repr

/-- The name of a kind in messages and log records. -/
def Kind.name : Kind → String
  | .null => "null"
  | .boolean => "boolean"
  | .number => "number"
  | .string => "string"
  | .array => "array"
  | .object => "object"

inductive Value where
  | null
  | boolean (value : Bool)
  | number (value : Number)
  | string (value : String)
  | array (items : List Value)
  | object (members : List (String × Value))
  deriving Repr

namespace Value

def kind : Value → Kind
  | .null => .null
  | .boolean _ => .boolean
  | .number _ => .number
  | .string _ => .string
  | .array _ => .array
  | .object _ => .object

end Value

namespace Document

mutual

/-- The value of a document, whatever its depth. -/
def value? : Document → Option Value
  | .null => some .null
  | .boolean b => some (.boolean b)
  | .number n => (Number.ofNumeral? n).map .number
  | .text raw => raw.map .string
  | .array items => (values? items).map .array
  | .object members => (entries? members).map fun entries => .object (Table.ofPairs entries)

def values? : List Document → Option (List Value)
  | [] => some []
  | item :: rest => do return (← item.value?) :: (← values? rest)

def entries? : List (RawText × Document) → Option (List (String × Value))
  | [] => some []
  | (key, item) :: rest => do return (← key, ← item.value?) :: (← entries? rest)

end

end Document

def Value.maxDepth : Nat := 127

/-- The value of a document that is not nested too deeply. -/
def Value.ofDocument? (document : Document) : Option Value :=
  if document.depth ≤ Value.maxDepth then document.value? else none

/-- The value that a text holds. -/
def Value.parse? (text : String) : Option Value :=
  (Document.parse? text).bind Value.ofDocument?

end IdentityClaims.Json
