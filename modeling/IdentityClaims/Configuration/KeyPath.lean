import IdentityClaims.Number.Decimal
import IdentityClaims.Number.Power
import IdentityClaims.Text.Blank

/-!
# Key paths

A key of a configuration may lead to a place deep inside it: `mapping.email` is a member of a
member, and `list[2]` the third item of a list. A key that is not written like that is the name
of one member, whatever characters it has.
-/

namespace IdentityClaims.Configuration

inductive Step where
  | member (name : String)
  /-- An item of an array; a negative index counts from its end. -/
  | item (index : Int)
  deriving DecidableEq, Repr

abbrev KeyPath := List Step

namespace KeyPath

def isNameChar (c : Char) : Bool :=
  c.isAlphanum || c == '_' || c == '-'

def name? (cs : List Char) : Option (Step × List Char) :=
  let name := cs.takeWhile isNameChar
  if name = [] then none else some (.member (String.ofList name), cs.dropWhile isNameChar)

/-- An index of 64 bits with its closing bracket, and what follows. Blanks may stand around it. -/
def index? (cs : List Char) : Option (Step × List Char) :=
  let cs := cs.dropWhile Text.isBlank
  let (negative, cs) := if cs.head? = some '-' then (true, cs.tail) else (false, cs)
  let digits := cs.takeWhile Char.isDigit
  let magnitude := Number.ofDecimal digits
  let index : Int := if negative then -(magnitude : Int) else magnitude
  match (cs.dropWhile Char.isDigit).dropWhile Text.isBlank with
  | ']' :: rest =>
    if digits ≠ [] ∧ Number.isSigned64 index then some (.item index, rest) else none
  | _ => none

/-- The steps after the first one, given as much fuel as there are characters. -/
def furtherSteps? : Nat → List Char → Option KeyPath
  | _, [] => some []
  | fuel + 1, '.' :: rest => do
    let (step, rest) ← name? rest
    return step :: (← furtherSteps? fuel rest)
  | fuel + 1, '[' :: rest => do
    let (step, rest) ← index? rest
    return step :: (← furtherSteps? fuel rest)
  | _, _ => none

def parse? (key : String) : Option KeyPath := do
  let (first, rest) ← name? key.toList
  return first :: (← furtherSteps? rest.length rest)

def ofKey (key : String) : KeyPath :=
  (parse? key).getD [.member key]

end KeyPath

end IdentityClaims.Configuration
