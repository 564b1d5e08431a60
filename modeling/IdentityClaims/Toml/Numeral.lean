import IdentityClaims.Json.Token
import IdentityClaims.Text.Pieces
import IdentityClaims.Toml.Statement

/-!
# TOML numerals

An integer of 64 bits with a sign, in base ten, or without a sign in base sixteen, eight or two;
or a decimal with a fraction or an exponent, which is the nearest double. Single underscores may
stand between digits. Doubles that are no real number have words of their own.
-/

namespace IdentityClaims.Toml

open IdentityClaims.Number

def digitOf? (base : Nat) (c : Char) : Option Nat :=
  (Json.hexValue? c).filter (· < base)

/-- The digits of a run without its underscores, which must have digits on both sides. -/
def digitRun? (base : Nat) (cs : List Char) : Option (List Char) :=
  let (first, others) := Text.splitChars '_' cs
  let groups := first :: others
  if groups.all fun group => group ≠ [] && group.all fun c => (digitOf? base c).isSome then
    some groups.flatten
  else none

/-- The number that a run of digits writes in a base. -/
def based? (base : Nat) (cs : List Char) : Option Nat :=
  (digitRun? base cs).map (ofDigits base fun c => (digitOf? base c).getD 0)

/-- An integer in the range of 64 bits. -/
def integer? (n : Int) : Option Item :=
  if isSigned64 n then some (.integer n) else none

/-- Digits before a point; only a lone zero starts with a zero. -/
def wholeDigits? (cs : List Char) : Option (List Char) :=
  (digitRun? 10 cs).filter fun digits => digits.length = 1 || digits.head? ≠ some '0'

/-- A number with its sign, if one is written. -/
def signed (cs : List Char) : Bool × List Char :=
  match cs with
  | '-' :: rest => (true, rest)
  | '+' :: rest => (false, rest)
  | rest => (false, rest)

def exponent? (cs : List Char) : Option Int :=
  let (negative, rest) := signed cs
  (based? 10 rest).map fun n => if negative then -(n : Int) else n

def decimal? (negative : Bool) (cs : List Char) : Option Item := do
  let mantissa := cs.takeWhile fun c => c ≠ 'e' && c ≠ 'E'
  let raised := (cs.drop mantissa.length).tail
  let whole := mantissa.takeWhile (· ≠ '.')
  let places := (mantissa.drop whole.length).tail
  let digits ← wholeDigits? whole
  if whole.length = cs.length then
    integer? (if negative then -(ofDecimal digits : Int) else ofDecimal digits)
  else
    let places ← if whole.length = mantissa.length then some [] else digitRun? 10 places
    let exponent ← if mantissa.length = cs.length then some 0 else exponent? raised
    (Binary64.ofDecimal? negative (ofDecimal (digits ++ places)) (exponent - places.length)).map
      fun x => .float (.finite x)

/-- The word for infinity or for what is no number, without its sign. -/
def special? (negative : Bool) (cs : List Char) : Option Item :=
  if cs = "inf".toList then some (.float (.infinite negative))
  else if cs = "nan".toList then some (.float .notANumber)
  else none

def number? : List Char → Option Item
  | '0' :: 'x' :: rest => (based? 16 rest).bind fun n => integer? n
  | '0' :: 'o' :: rest => (based? 8 rest).bind fun n => integer? n
  | '0' :: 'b' :: rest => (based? 2 rest).bind fun n => integer? n
  | cs =>
    let (negative, rest) := signed cs
    special? negative rest <|> decimal? negative rest

end IdentityClaims.Toml
