import IdentityClaims.ErrorEnum.Path
import IdentityClaims.Json.Token
import IdentityClaims.Number.Decimal
import IdentityClaims.Number.Power
import IdentityClaims.Text.Pieces

/-!
# Members of structures

A member is a field with a name or a number. A number may be written in any base, without a suffix,
and is kept as the decimal numeral of its value. Two numbers with a point between them look like
one numeral with a fraction.
-/

namespace IdentityClaims.ErrorEnum

open Number

/-- The base that a numeral is written in, and its digits. -/
def baseAndDigits : List Char → Nat × List Char
  | '0' :: 'x' :: rest => (16, rest)
  | '0' :: 'o' :: rest => (8, rest)
  | '0' :: 'b' :: rest => (2, rest)
  | cs => (10, cs)

/-- The number of a field: an integer of 32 bits without a suffix. Underscores do not count. -/
def fieldNumber? (text : String) : Option Nat := do
  let (base, body) := baseAndDigits text.toList
  let digits ← (body.filter (· ≠ '_')).mapM fun c => (Json.hexValue? c).filter (· < base)
  if digits.isEmpty then none
  let value := digits.foldl (fun n digit => n * base + digit) 0
  if value < twoTo 32 then some value else none

/-- The numbers of fields with points between them, and whether a point ends them. -/
def fieldNumbers? (text : String) : Option (List Nat × Bool) := do
  let parts := Text.pieces '.' text
  let open? := parts.getLast? == some "" && parts.length > 1
  let numbers ← (if open? then parts.dropLast else parts).mapM fieldNumber?
  return (numbers, open?)

def numberToken (n : Nat) : Token := .literal (String.ofList (digits n))

/-- Numbers of fields as tokens with points between them. -/
def numberTokens : List Nat → List Token
  | [] => []
  | [n] => [numberToken n]
  | n :: rest => numberToken n :: .punct '.' false :: numberTokens rest

namespace Grammar

open Reading

/-- A field by its name or its number, and whether it is a name. -/
def member : Reading (List Token × Bool) := do
  match ← any with
  | .name id => if id.isName then return ([.name id], true) else failure
  | .literal text =>
    match fieldNumber? text with
    | some n => return ([numberToken n], false)
    | none => failure
  | _ => failure

end Grammar

end IdentityClaims.ErrorEnum
