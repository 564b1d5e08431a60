import IdentityClaims.Text.Mark
import IdentityClaims.Toml.Numeral
import IdentityClaims.Toml.Text

/-!
# TOML documents

How statements are written. Each one has a line of its own; blanks may stand around every part
of it, and a comment after it. No control character may occur anywhere, save tabs and those of
line breaks.
-/

namespace IdentityClaims.Toml

namespace Reading

/-- Skips a comment, which ends where its line ends. -/
def skipComment : Reading Unit := do
  if ← sees "#" then
    let _ ← takeWhile fun c => c ≠ '\r' && c ≠ '\n'

/-- Skips blanks, comments and line breaks, line by line. -/
def skipLinesUpTo : Nat → Reading Unit
  | 0 => failure
  | fuel + 1 => do
    skipBlanks
    skipComment
    if ← takesLineBreak then skipLinesUpTo fuel

def skipLines : Reading Unit := do
  skipLinesUpTo ((← get).length + 1)

/-- What remains of a line after its statement: a comment at most. -/
def endLine : Reading Unit := do
  skipBlanks
  skipComment
  if (← get) ≠ [] then
    if !(← takesLineBreak) then failure

/-! ## Keys -/

/-- The characters of a part of a key that is not quoted. -/
def isBare (c : Char) : Bool :=
  c.isAlphanum || c == '_' || c == '-'

def keyPart : Reading String := do
  if ← takes "\"" then lineText? basicQuote
  else if ← takes "'" then lineText? literalQuote
  else
    let bare ← takeWhile isBare
    if bare = [] then failure
    return String.ofList bare

/-- A part of a key and, after each dot, another one, up to a number of parts. -/
def keyUpTo : Nat → Reading Key
  | 0 => failure
  | fuel + 1 => do
    skipBlanks
    let part ← keyPart
    skipBlanks
    if ← takes "." then return part :: (← keyUpTo fuel) else return [part]

/-- A key of at most eighty parts, with the blanks around it. -/
def key : Reading Key :=
  keyUpTo 80

/-! ## Items -/

/-- A text with its quotes, or nothing if none comes next. -/
def text? : Reading (Option String) := do
  if ← takes "\"\"\"" then some <$> spanningText? basicQuote
  else if ← takes "'''" then some <$> spanningText? literalQuote
  else if ← takes "\"" then some <$> lineText? basicQuote
  else if ← takes "'" then some <$> lineText? literalQuote
  else return none

/-- The characters of truth values, numbers, dates and times. -/
def isPlain (c : Char) : Bool :=
  isBare c || c == '+' || c == '.' || c == ':'

/-- A word of plain characters, and a second one that is the time to the date before it. -/
def plainWord : Reading (List Char) := do
  let word ← takeWhile isPlain
  match ← get with
  | ' ' :: c :: rest =>
    if c.isDigit && (date.whole? word).isSome then
      set (c :: rest)
      return word ++ ' ' :: (← takeWhile isPlain)
    else return word
  | _ => return word

/-- A truth value, a date or time, or a number. -/
def plainItem : Reading Item := do
  let word ← plainWord
  if word = "true".toList then return .boolean true
  else if word = "false".toList then return .boolean false
  else match moment.whole? word with
    | some moment => return .moment moment
    | none => number? word

mutual

/-- What stands to the right of an equals sign, given enough fuel. -/
def item : Nat → Reading Item
  | 0 => failure
  | fuel + 1 => do
    match ← text? with
    | some text => return .text text
    | none =>
      if ← takes "[" then return .array (← arrayItems fuel)
      else if ← takes "\x7b" then return .inlineTable (← inlinePairs fuel)
      else plainItem

/-- The items up to the closing bracket. They may be spread over lines, and a comma may follow
the last one. -/
def arrayItems : Nat → Reading (List Item)
  | 0 => failure
  | fuel + 1 => do
    skipLines
    if ← takes "]" then return []
    let first ← item fuel
    skipLines
    if ← takes "," then return first :: (← arrayItems fuel)
    expect "]"
    return [first]

/-- The pairs up to the closing brace, laid out like items. -/
def inlinePairs : Nat → Reading (List (Key × Item))
  | 0 => failure
  | fuel + 1 => do
    skipLines
    if ← takes "\x7d" then return []
    let first ← pair fuel
    skipLines
    if ← takes "," then return first :: (← inlinePairs fuel)
    expect "\x7d"
    return [first]

def pair : Nat → Reading (Key × Item)
  | 0 => failure
  | fuel + 1 => do
    let key ← key
    expect "="
    skipBlanks
    return (key, ← item fuel)

end

/-! ## Statements -/

/-- One statement; it starts with no blank. -/
def statement : Reading Statement := do
  if ← takes "[[" then
    let key ← key
    expect "]]"
    return .arrayTable key
  else if ← takes "[" then
    let key ← key
    expect "]"
    return .table key
  else
    let (key, item) ← pair (3 * (← get).length + 3)
    if item.depth > Item.maxDepth then failure
    return .pair key item

def statementsUpTo : Nat → Reading (List Statement)
  | 0 => failure
  | fuel + 1 => do
    skipLines
    if (← get) = [] then return []
    let first ← statement
    endLine
    return first :: (← statementsUpTo fuel)

/-- All statements; every one takes at least one character. -/
def statements : Reading (List Statement) := do
  statementsUpTo ((← get).length + 1)

end Reading

def isAllowed (c : Char) : Bool :=
  c == '\t' || c == '\n' || (0x20 ≤ c.toNat && c.toNat ≠ 0x7F)

/-- Whether a document may hold some characters: a carriage return only in a line break. -/
def areAllowed : List Char → Bool
  | '\r' :: rest => rest.head? == some '\n' && areAllowed rest
  | c :: rest => isAllowed c && areAllowed rest
  | [] => true

/-- The statements that a text writes. A byte order mark in front is skipped. -/
def Statement.parseAll? (text : String) : Option (List Statement) :=
  let cs := Text.withoutMark text.toList
  if areAllowed cs then (Reading.statements.run cs).map Prod.fst else none

end IdentityClaims.Toml
