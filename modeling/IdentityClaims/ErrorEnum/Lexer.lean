import IdentityClaims.ErrorEnum.Token
import IdentityClaims.Json.Token
import IdentityClaims.Text.Blank
import IdentityClaims.Text.Escaped
import IdentityClaims.Text.Identifier

/-!
# Reading tokens from source text

A scan takes a lexeme from the front of the text and gives what follows it. Comments are blank,
except for doc comments, which stand for attributes that hold their text. Brackets must balance.
-/

namespace IdentityClaims.ErrorEnum

open Text

/-- What follows a lexeme at the front of a text, if there is one. -/
abbrev Scan := List Char → Option (List Char)

/-- The characters between a text and what follows in it. -/
def consumed (text rest : List Char) : List Char :=
  text.take (text.length - rest.length)

namespace Scan

def exactly : List Char → Scan
  | [], cs => some cs
  | c :: rest, d :: cs => if c = d then exactly rest cs else none
  | _ :: _, [] => none

/-- An identifier without a mark that makes it raw. -/
def identifier : Scan
  | [] => none
  | c :: rest => if isIdentifierStart c then some (rest.dropWhile isIdentifierPart) else none

/-- The suffix of a literal, if there is one. -/
def suffix (cs : List Char) : List Char := (identifier cs).getD cs

/-- The end of a word: no identifier goes on here. -/
def wordEnd : Scan
  | [] => some []
  | c :: rest => if isIdentifierPart c then none else some (c :: rest)

end Scan

/-! ## Quoted literals -/

inductive Quoting where
  | characters | bytes | terminated
  deriving DecidableEq, Repr

namespace Quoting

/-- The characters that may stand in a literal as they are. -/
def admits : Quoting → Char → Bool
  | .characters, _ => true
  | .bytes, c => c.toNat < 0x80
  | .terminated, c => c.toNat ≠ 0

def shortEscapes : Quoting → List Char
  | .terminated => ['n', 'r', 't', '\\', '\'', '"']
  | _ => ['n', 'r', 't', '\\', '\'', '"', '0']

/-- The escapes by two hexadecimal digits: seven bits in text, and no zero where a zero ends the
text. -/
def admitsHex (quoting : Quoting) (a b : Char) : Bool :=
  match Json.hexValue? a, Json.hexValue? b with
  | some high, some low =>
    match quoting with
    | .characters => high < 8
    | .bytes => true
    | .terminated => high * 16 + low ≠ 0
  | _, _ => false

end Quoting

/-- The digits of an escape by code point, up to its closing brace: at most six, with underscores
between them. -/
def codePoint? (value count : Nat) : List Char → Option (Nat × List Char)
  | [] => none
  | c :: rest =>
    if c = '_' then if count = 0 then none else codePoint? value count rest
    else if c.toNat = 0x7d then
      if count = 0 || value ≥ 0x110000 || (0xD800 ≤ value && value < 0xE000) then none
      else some (value, rest)
    else match Json.hexValue? c with
      | none => none
      | some digit => if count = 6 then none else codePoint? (value * 16 + digit) (count + 1) rest

def escape? (quoting : Quoting) : Scan
  | 'x' :: a :: b :: rest => if quoting.admitsHex a b then some rest else none
  | 'u' :: brace :: rest =>
    if brace.toNat ≠ 0x7b || quoting = .bytes then none
    else match codePoint? 0 0 rest with
      | none => none
      | some (value, rest) => if quoting = .terminated && value = 0 then none else some rest
  | c :: rest => if c ∈ quoting.shortEscapes then some rest else none
  | [] => none

/-- The rest of a quoted text after its opening quote. After an escaped line end, white space is
skipped. A carriage return stands only before a line feed. -/
def quotedEnd? (quoting : Quoting) : Nat → Bool → Scan
  | 0, _, _ => none
  | fuel + 1, skipping, cs =>
    match cs with
    | [] => none
    | '\r' :: '\n' :: rest => quotedEnd? quoting fuel skipping rest
    | '\r' :: _ => none
    | '\\' :: '\n' :: rest => quotedEnd? quoting fuel true rest
    | '\\' :: '\r' :: '\n' :: rest => quotedEnd? quoting fuel true rest
    | '\\' :: rest => (escape? quoting rest).bind (quotedEnd? quoting fuel false)
    | '"' :: rest => some (Scan.suffix rest)
    | c :: rest =>
      if skipping && (c = ' ' || c = '\t' || c = '\n') then quotedEnd? quoting fuel true rest
      else if quoting.admits c then quotedEnd? quoting fuel false rest
      else none

/-- The rest of a raw text: it ends at a quote that as many hashes follow as it began with. -/
def rawEnd? (quoting : Quoting) (hashes : List Char) : Scan
  | [] => none
  | '\r' :: '\n' :: rest => rawEnd? quoting hashes rest
  | '\r' :: _ => none
  | c :: rest =>
    match if c = '"' then Scan.exactly hashes rest else none with
    | some rest => some (Scan.suffix rest)
    | none => if quoting.admits c then rawEnd? quoting hashes rest else none

def rawText? (quoting : Quoting) : Scan := fun cs =>
  let hashes := cs.takeWhile (· = '#')
  match cs.dropWhile (· = '#') with
  | '"' :: rest => if hashes.length > 255 then none else rawEnd? quoting hashes rest
  | _ => none

/-- A text in quotes or a raw text, behind the letters that tell its kind. -/
def quotedText? (letters : List Char) (quoting : Quoting) : Scan := fun cs =>
  match Scan.exactly letters cs with
  | none => none
  | some ('"' :: rest) => quotedEnd? quoting rest.length false rest
  | some ('r' :: rest) => rawText? quoting rest
  | some _ => none

/-- A single character or byte after its opening quote. -/
def quotedChar? (quoting : Quoting) : Scan := fun cs =>
  let body := match cs with
    | '\\' :: rest => escape? quoting rest
    | c :: rest => if quoting.admits c then some rest else none
    | [] => none
  match body with
  | some ('\'' :: rest) => some (Scan.suffix rest)
  | _ => none

/-! ## Numbers -/

def isDigitOrGap (c : Char) : Bool := c.isDigit || c == '_'

/-- The exponent of a number after its letter: a sign before any digit, and at least one digit. -/
def exponentEnd? (signed valued : Bool) : Scan
  | [] => if valued then some [] else none
  | c :: rest =>
    if c = '+' || c = '-' then
      if valued then some (c :: rest)
      else if signed then none
      else exponentEnd? true false rest
    else if c.isDigit then exponentEnd? signed true rest
    else if c = '_' then exponentEnd? signed valued rest
    else if valued then some (c :: rest)
    else none

/-- The exponent that may follow; where none is complete, the number ends before its letter. -/
def exponentOr (fallback : Option (List Char)) : Scan
  | [] => fallback
  | c :: rest =>
    if c = 'e' || c = 'E' then (exponentEnd? false false rest).or fallback else fallback

/-- A number with a point or an exponent. No identifier and no second point follows the point. -/
def floatDigits? : Scan
  | [] => none
  | first :: rest =>
    if !first.isDigit then none
    else match rest.dropWhile isDigitOrGap with
      | '.' :: rest =>
        let blocked := match rest with
          | c :: _ => c == '.' || isIdentifierStart c
          | [] => false
        if blocked then none
        else
          let rest := rest.dropWhile isDigitOrGap
          exponentOr (some rest) rest
      | rest => exponentOr none rest

/-- The digits of an integer in a base, with underscores among them. -/
def baseDigits? (base : Nat) (some? : Bool) : Scan
  | [] => if some? then some [] else none
  | c :: rest =>
    if c = '_' then if !some? && base = 10 then none else baseDigits? base some? rest
    else match Json.hexValue? c with
      | none => if some? then some (c :: rest) else none
      | some digit =>
        if digit < base then baseDigits? base true rest
        else if c.isDigit then none
        else if some? then some (c :: rest)
        else none

def intDigits? : Scan
  | '0' :: 'x' :: rest => baseDigits? 16 false rest
  | '0' :: 'o' :: rest => baseDigits? 8 false rest
  | '0' :: 'b' :: rest => baseDigits? 2 false rest
  | cs => baseDigits? 10 false cs

def number? : Scan := fun cs =>
  let ended (digits : Scan) := (digits cs).bind fun rest => Scan.wordEnd (Scan.suffix rest)
  (ended floatDigits?).or (ended intDigits?)

def charLiteral? : Scan
  | 'b' :: '\'' :: rest => quotedChar? .bytes rest
  | '\'' :: rest => quotedChar? .characters rest
  | _ => none

/-- The kinds of literals, in the order in which they are tried. -/
def literalScans : List Scan :=
  [quotedText? [] .characters, quotedText? ['b'] .bytes, quotedText? ['c'] .terminated,
    charLiteral?, number?]

def literal? : Scan := fun cs => literalScans.findSome? fun scan => scan cs

/-! ## Words and punctuation -/

/-- The beginnings of quoted literals, where no identifier is read. -/
def quotedStarts : List (List Char) :=
  [['r', '"'], ['r', '#', '"'], ['r', '#', '#'], ['b', '"'], ['b', '\''], ['b', 'r', '"'],
   ['b', 'r', '#'], ['c', '"'], ['c', 'r', '"'], ['c', 'r', '#']]

def neverRaw : List String := ["_", "super", "self", "Self", "crate"]

def identifier? (cs : List Char) : Option (Identifier × List Char) := do
  let (raw, body) := match cs with
    | 'r' :: '#' :: rest => (true, rest)
    | _ => (false, cs)
  let rest ← Scan.identifier body
  let text := String.ofList (consumed body rest)
  if raw && text ∈ neverRaw then none
  return (⟨text, raw⟩, rest)

def isPunctuation (c : Char) : Bool :=
  c ∈ ['~', '!', '@', '#', '$', '%', '^', '&', '*', '-', '=', '+', '|', ';', ':', ',', '<', '.',
    '>', '/', '?', '\'']

/-- A punctuation character at the front; the slash of a comment is none. -/
def punctuation? : List Char → Option (Char × List Char)
  | '/' :: '/' :: _ | '/' :: '*' :: _ => none
  | c :: rest => if isPunctuation c then some (c, rest) else none
  | [] => none

def startsQuoted (cs : List Char) : Bool :=
  quotedStarts.any fun start => (Scan.exactly start cs).isSome

/-- A lifetime after its quote. It must not look like a character without a closing quote. Where
its letters begin a quoted literal, the quote stands alone. -/
def lifetime? (cs : List Char) : Option (Token × List Char) := do
  let (id, rest) ← identifier? cs
  let lone := match rest with
    | '\'' :: _ => true
    | '#' :: _ => !id.raw
    | _ => false
  if lone then none
  if startsQuoted cs then return (.punct '\'' true, cs) else return (.lifetime id, rest)

/-- The token at the front of a text, brackets apart. -/
def leaf? (cs : List Char) : Option (Token × List Char) :=
  match literal? cs with
  | some rest => some (.literal (String.ofList (consumed cs rest)), rest)
  | none =>
    match punctuation? cs with
    | some ('\'', rest) => lifetime? rest
    | some (c, rest) => some (.punct c (punctuation? rest).isSome, rest)
    | none =>
      if startsQuoted cs then none
      else (identifier? cs).map fun (id, rest) => (.name id, rest)

/-! ## Comments -/

/-- The rest of a block comment, which may hold others. -/
def blockEnd? (depth : Nat) : Scan
  | '/' :: '*' :: rest => blockEnd? (depth + 1) rest
  | '*' :: '/' :: rest => if depth ≤ 1 then some rest else blockEnd? (depth - 1) rest
  | _ :: rest => blockEnd? depth rest
  | [] => none

/-- A line and what follows, which begins with its line feed. -/
def lineBreak : List Char → List Char × List Char
  | [] => ([], [])
  | '\r' :: '\n' :: rest => ([], '\n' :: rest)
  | '\n' :: rest => ([], '\n' :: rest)
  | c :: rest =>
    let (line, rest) := lineBreak rest
    (c :: line, rest)

/-- What follows blanks and comments other than doc comments. -/
def skipBlank : Nat → List Char → List Char
  | 0, cs => cs
  | fuel + 1, cs =>
    match cs with
    | '/' :: '/' :: '/' :: '/' :: rest => skipBlank fuel (lineBreak rest).2
    | '/' :: '/' :: '/' :: _ | '/' :: '/' :: '!' :: _ => cs
    | '/' :: '/' :: rest => skipBlank fuel (lineBreak rest).2
    | '/' :: '*' :: '*' :: '/' :: rest => skipBlank fuel rest
    | '/' :: '*' :: '*' :: '*' :: _ => ((blockEnd? 0 cs).map (skipBlank fuel)).getD cs
    | '/' :: '*' :: '*' :: _ | '/' :: '*' :: '!' :: _ => cs
    | '/' :: '*' :: _ => ((blockEnd? 0 cs).map (skipBlank fuel)).getD cs
    | c :: rest =>
      if isWhitespace c || c.toNat = 0x200E || c.toNat = 0x200F then skipBlank fuel rest else cs
    | [] => []

def hasBareReturn : List Char → Bool
  | '\r' :: '\n' :: rest => hasBareReturn rest
  | '\r' :: _ => true
  | _ :: rest => hasBareReturn rest
  | [] => false

/-- The text of a doc comment, whether it documents what encloses it, and what follows. -/
def docComment? (cs : List Char) : Option (List Char × Bool × List Char) := do
  let (text, inner, rest) ← match cs with
    | '/' :: '/' :: '!' :: body =>
      let (line, rest) := lineBreak body
      pure (line, true, rest)
    | '/' :: '/' :: '/' :: '/' :: _ => none
    | '/' :: '/' :: '/' :: body =>
      let (line, rest) := lineBreak body
      pure (line, false, rest)
    | '/' :: '*' :: '!' :: _ =>
      let rest ← blockEnd? 0 cs
      pure (((consumed cs rest).drop 3).dropLast.dropLast, true, rest)
    | '/' :: '*' :: '*' :: '*' :: _ => none
    | '/' :: '*' :: '*' :: _ =>
      let rest ← blockEnd? 0 cs
      pure (((consumed cs rest).drop 3).dropLast.dropLast, false, rest)
    | _ => none
  if hasBareReturn text then none
  return (text, inner, rest)

def docTokens (text : List Char) (inner : Bool) : List Token :=
  (if inner then [.punct '#' false, .punct '!' false] else [.punct '#' false]) ++
    [.opening .bracket, .word "doc", .punct '=' false, .literal (Text.literal text),
      .closing .bracket]

/-! ## The whole text -/

def opening? (c : Char) : Option Delimiter :=
  if c = '(' then some .paren
  else if c = '[' then some .bracket
  else if c.toNat = 0x7b then some .brace
  else none

def closing? (c : Char) : Option Delimiter :=
  if c = ')' then some .paren
  else if c = ']' then some .bracket
  else if c.toNat = 0x7d then some .brace
  else none

/-- The text of a literal without a value: the mark of something that could not be read. -/
def errorMark : String := "(/*ERROR*/)"

/-- All tokens of a text, given the brackets that are open and as much fuel as there are
characters. -/
def readTokens? : Nat → List Delimiter → List Char → Option (List Token)
  | 0, stack, cs => if cs.isEmpty && stack.isEmpty then some [] else none
  | fuel + 1, stack, cs =>
    let cs := skipBlank cs.length cs
    match docComment? cs, Scan.exactly errorMark.toList cs with
    | some (text, inner, rest), _ => (readTokens? fuel stack rest).map (docTokens text inner ++ ·)
    | none, some rest => (readTokens? fuel stack rest).map (.literal errorMark :: ·)
    | none, none =>
      match cs with
      | [] => if stack.isEmpty then some [] else none
      | c :: rest =>
        match opening? c, closing? c with
        | some d, _ => (readTokens? fuel (d :: stack) rest).map (.opening d :: ·)
        | none, some d =>
          match stack with
          | top :: stack =>
            if top = d then (readTokens? fuel stack rest).map (.closing d :: ·) else none
          | [] => none
        | none, none => do
          let (token, rest) ← leaf? cs
          return token :: (← readTokens? fuel stack rest)

/-- The tokens of a source text. A byte order mark in front of it is not part of it. -/
def tokens? (source : String) : Option (List Token) :=
  let cs := match source.toList with
    | c :: rest => if c.toNat = 0xFEFF then rest else c :: rest
    | [] => []
  readTokens? (cs.length + 1) [] cs

end IdentityClaims.ErrorEnum
