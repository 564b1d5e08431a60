import IdentityClaims.Number.Decimal

/-!
# JSON tokens

Texts are kept with their escapes decoded. An escaped half of a surrogate pair without its
partner stands for no character; a text with one is a token all the same, because a reader that
skips the text never looks at its characters.
-/

namespace IdentityClaims.Json

open IdentityClaims.Number

/-- A number as it is written, `± coefficient · 10 ^ scale`. -/
structure Numeral where
  negative : Bool
  coefficient : Nat
  scale : Int
  /-- Written without a fraction and without an exponent. -/
  whole : Bool
  deriving DecidableEq, Repr

/-- The characters of a text, or none if an escape in it stands for no character. -/
abbrev RawText := Option String

inductive Token where
  | openBrace | closeBrace | openBracket | closeBracket | colon | comma
  | null
  | boolean (value : Bool)
  | number (numeral : Numeral)
  | text (raw : RawText)
  deriving DecidableEq, Repr

def isBlank (c : Char) : Bool :=
  c == ' ' || c == '\t' || c == '\n' || c == '\r'

def hexValue? (c : Char) : Option Nat :=
  if '0' ≤ c ∧ c ≤ '9' then some (c.toNat - 0x30)
  else if 'a' ≤ c ∧ c ≤ 'f' then some (c.toNat - 0x61 + 10)
  else if 'A' ≤ c ∧ c ≤ 'F' then some (c.toNat - 0x41 + 10)
  else none

def hexUnit? (a b c d : Char) : Option Nat := do
  return (((← hexValue? a) * 16 + (← hexValue? b)) * 16 + (← hexValue? c)) * 16 + (← hexValue? d)

def shortEscape? : Char → Option Char
  | '"' => some '"'
  | '\\' => some '\\'
  | '/' => some '/'
  | 'b' => some (Char.ofNat 8)
  | 'f' => some (Char.ofNat 12)
  | 'n' => some '\n'
  | 'r' => some '\r'
  | 't' => some '\t'
  | _ => none

/-- The units of a text up to its closing quote, and what follows. A unit is the code point of a
character or a surrogate half from an escape; control characters must be escaped. -/
def textUnits? : List Char → Option (List Nat × List Char)
  | '"' :: rest => some ([], rest)
  | '\\' :: 'u' :: a :: b :: c :: d :: rest => do
    let unit ← hexUnit? a b c d
    let (units, rest) ← textUnits? rest
    return (unit :: units, rest)
  | '\\' :: e :: rest => do
    let c ← shortEscape? e
    let (units, rest) ← textUnits? rest
    return (c.toNat :: units, rest)
  | c :: rest => do
    if c.toNat < 0x20 || c == '\\' then none
    let (units, rest) ← textUnits? rest
    return (c.toNat :: units, rest)
  | [] => none

def isHighHalf (unit : Nat) : Bool := 0xD800 ≤ unit && unit < 0xDC00

def isLowHalf (unit : Nat) : Bool := 0xDC00 ≤ unit && unit < 0xE000

/-- Joins surrogate pairs; a half without its partner has no character. -/
def joinUnits? : List Nat → Option (List Char)
  | [] => some []
  | high :: low :: rest =>
    if isHighHalf high && isLowHalf low then
      (joinUnits? rest).map (Char.ofNat (0x10000 + (high - 0xD800) * 0x400 + (low - 0xDC00)) :: ·)
    else if isHighHalf high || isLowHalf high then none
    else (joinUnits? (low :: rest)).map (Char.ofNat high :: ·)
  | [unit] => if isHighHalf unit || isLowHalf unit then none else some [Char.ofNat unit]

def digitRun (cs : List Char) : List Char × List Char :=
  (cs.takeWhile Char.isDigit, cs.dropWhile Char.isDigit)

/-- The exponent of a number, zero if none is written, and what follows. -/
def exponent? : List Char → Option (Int × Bool × List Char)
  | [] => some (0, false, [])
  | c :: rest =>
    if c == 'e' || c == 'E' then
      let (negative, rest) := match rest with
        | '-' :: rest => (true, rest)
        | '+' :: rest => (false, rest)
        | rest => (false, rest)
      let (run, rest) := digitRun rest
      if run.isEmpty then none
      else some (if negative then -(ofDecimal run : Int) else ofDecimal run, true, rest)
    else some (0, false, c :: rest)

/-- The digits of a fraction, none if no point is written, and what follows. -/
def fraction? : List Char → Option (List Char × Bool × List Char)
  | '.' :: rest =>
    let (run, rest) := digitRun rest
    if run.isEmpty then none else some (run, true, rest)
  | rest => some ([], false, rest)

/-- A number without its sign, and what follows. Only a lone zero starts with a zero. -/
def unsigned? (negative : Bool) (cs : List Char) : Option (Numeral × List Char) := do
  let (whole, rest) := digitRun cs
  if whole.isEmpty || (whole.head? == some '0' && whole.length > 1) then none
  let (places, pointed, rest) ← fraction? rest
  let (exponent, raised, rest) ← exponent? rest
  return (⟨negative, ofDecimal (whole ++ places), exponent - places.length, !pointed && !raised⟩,
    rest)

/-- One token at the front of a text that does not start with a blank, and what follows. -/
def Token.next? : List Char → Option (Token × List Char)
  | '{' :: rest => some (.openBrace, rest)
  | '}' :: rest => some (.closeBrace, rest)
  | '[' :: rest => some (.openBracket, rest)
  | ']' :: rest => some (.closeBracket, rest)
  | ':' :: rest => some (.colon, rest)
  | ',' :: rest => some (.comma, rest)
  | 'n' :: 'u' :: 'l' :: 'l' :: rest => some (.null, rest)
  | 't' :: 'r' :: 'u' :: 'e' :: rest => some (.boolean true, rest)
  | 'f' :: 'a' :: 'l' :: 's' :: 'e' :: rest => some (.boolean false, rest)
  | '"' :: rest => do
    let (units, rest) ← textUnits? rest
    return (.text ((joinUnits? units).map String.ofList), rest)
  | '-' :: rest => do
    let (numeral, rest) ← unsigned? true rest
    return (.number numeral, rest)
  | cs => do
    let (numeral, rest) ← unsigned? false cs
    return (.number numeral, rest)

/-- All tokens, given as much fuel as there are characters. -/
def Token.readAll? : Nat → List Char → Option (List Token)
  | 0, cs => if cs.all isBlank then some [] else none
  | fuel + 1, cs =>
    match cs.dropWhile isBlank with
    | [] => some []
    | c :: rest => do
      let (token, rest) ← Token.next? (c :: rest)
      return token :: (← Token.readAll? fuel rest)

/-- The tokens of a text; every token takes at least one of its characters. -/
def Token.ofText? (text : String) : Option (List Token) :=
  Token.readAll? text.toList.length text.toList

end IdentityClaims.Json
