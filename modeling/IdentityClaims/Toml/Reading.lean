import IdentityClaims.Number.Decimal
import IdentityClaims.Text.Blank

/-!
# Reading a TOML text

The parts of a document are read one after the other, each from the front of the characters that
the one before it has left. Lines end with a line feed, with or without a carriage return before
it.
-/

namespace IdentityClaims.Toml

/-- A reading takes characters from the front of a list or fails. -/
abbrev Reading := StateT (List Char) Option

namespace Reading

def sees (text : String) : Reading Bool := do
  return text.toList.isPrefixOf (← get)

/-- Takes a text if it comes next, and says whether it did. -/
def takes (text : String) : Reading Bool := do
  if ← sees text then
    modify (·.drop text.length)
    return true
  else return false

/-- Takes one of several texts if it comes next, and says whether it did. -/
def takesAny : List String → Reading Bool
  | [] => return false
  | text :: rest => do if ← takes text then return true else takesAny rest

def expect (text : String) : Reading Unit := do
  if !(← takes text) then failure

def takeWhile (test : Char → Bool) : Reading (List Char) := do
  let cs ← get
  set (cs.dropWhile test)
  return cs.takeWhile test

def skipBlanks : Reading Unit := do
  let _ ← takeWhile Text.isBlank

/-- Takes a line break if it comes next, and says whether it did. -/
def takesLineBreak : Reading Bool :=
  takesAny ["\n", "\r\n"]

/-- A number of so many decimal digits, between two bounds. -/
def digits (width low high : Nat) : Reading Nat := do
  let run ← takeWhile Char.isDigit
  let value := Number.ofDecimal run
  if run.length = width ∧ low ≤ value ∧ value ≤ high then return value else failure

/-- What a reading finds in a text, which it must take whole. -/
def whole? (reading : Reading α) (cs : List Char) : Option α :=
  match reading.run cs with
  | some (found, []) => some found
  | _ => none

end Reading

end IdentityClaims.Toml
