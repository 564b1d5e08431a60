import IdentityClaims.ErrorEnum.Lookahead

/-!
# Reading from a list of tokens

A reading takes tokens from the front of a list or fails. Most readings give back what they took
in its normal form, as tokens again. Which rule applies is decided by looking ahead, so a reading
that fails makes the whole item invalid.
-/

namespace IdentityClaims.ErrorEnum

abbrev Reading := StateT (List Token) Option

namespace Reading

/-! ## Looking ahead -/

def sees (look : Lookahead) : Reading Bool := do
  return look (← get)

def seesSymbol (text : String) : Reading Bool := sees (.symbol text)

def seesWord (text : String) : Reading Bool := sees (.word text)

def seesOpening (delimiter : Delimiter) : Reading Bool := sees (.opening delimiter)

def seesClosing : Reading Bool := sees .closing

/-- What a reading would leave; nothing is taken. -/
def beyond {α : Type} (reading : Reading α) : Reading (List Token) := do
  let before ← get
  let _ ← reading
  let rest ← get
  set before
  return rest

/-! ## Taking tokens -/

def any : Reading Token := do
  match ← get with
  | token :: rest => set rest; return token
  | [] => failure

def symbol (text : String) : Reading (List Token) := do
  match symbolAt? text.toList (← get) with
  | some (taken, rest) => set rest; return taken
  | none => failure

def word (text : String) : Reading (List Token) := do
  if ← seesWord text then return [← any] else failure

def identifier : Reading Identifier := do
  match ← any with
  | .name id => return id
  | _ => failure

def name : Reading Identifier := do
  let id ← identifier
  if id.isName then return id else failure

def lifetime : Reading (List Token) := do
  if ← sees .lifetime then return [← any] else failure

/-- What a reading takes if it is called for, and nothing otherwise. -/
def onlyIf (called : Bool) (reading : Reading (List Token)) : Reading (List Token) :=
  if called then reading else return []

def optionalSymbol (text : String) : Reading (List Token) := do
  onlyIf (← seesSymbol text) (symbol text)

def optionalWord (text : String) : Reading (List Token) := do
  onlyIf (← seesWord text) (word text)

/-- What a reading takes between brackets, and nothing more between them. -/
def inside {α : Type} (delimiter : Delimiter) (reading : Reading α) : Reading α := do
  if ← seesOpening delimiter then
    let _ ← any
    let taken ← reading
    match ← any with
    | .closing _ => return taken
    | _ => failure
  else failure

def bracketed (delimiter : Delimiter) (tokens : List Token) : List Token :=
  .opening delimiter :: tokens ++ [.closing delimiter]

/-- What a reading takes between brackets, together with the brackets. -/
def group (delimiter : Delimiter) (reading : Reading (List Token)) : Reading (List Token) := do
  return bracketed delimiter (← inside delimiter reading)

/-- All tokens up to the closing bracket, as they are. -/
def verbatim : Reading (List Token) := do
  let (inner, rest) := splitClosing 0 (← get)
  set rest
  return inner

/-- Brackets of any kind with whatever stands between them. -/
def anyGroup : Reading (List Token) := do
  match ← any with
  | .opening delimiter =>
    let content ← verbatim
    let _ ← any
    return bracketed delimiter content
  | _ => failure

/-- The tokens that have been taken since, as they are written. -/
def writtenSince (before : List Token) : Reading (List Token) := do
  return before.take (before.length - (← get).length)

def asWritten {α : Type} (reading : Reading α) : Reading (List Token) := do
  let before ← get
  let _ ← reading
  writtenSince before

/-- What a reading takes in its normal form or, where it has none, as it is written. -/
def normalOrWritten (reading : Reading (Option (List Token))) : Reading (List Token) := do
  let before ← get
  match ← reading with
  | some tokens => return tokens
  | none => writtenSince before

/-- A reading that is given fuel for all the tokens that are left. -/
def fueled {α : Type} (reading : Nat → Reading α) : Reading α := do
  reading (4 * (← get).length + 4)

/-- What a reading takes over and over up to a closing bracket. -/
def repeated (reading : Reading (List Token)) : Nat → Reading (List Token)
  | 0 => failure
  | fuel + 1 => do
    if ← seesClosing then return []
    let first ← reading
    return first ++ (← repeated reading fuel)

/-- What a reading takes as often as it can up to a closing bracket. -/
def many (reading : Reading (List Token)) : Reading (List Token) := fueled (repeated reading)

/-- Items with what separates them, up to where a test stops. A last separator may follow. -/
def itemsUpTo {α : Type} (stop : Reading Bool) (item : Reading α)
    (separator : Reading (List Token)) : Nat → Reading (List (α × List Token))
  | 0 => failure
  | fuel + 1 => do
    if ← stop then return []
    let first ← item
    if ← stop then return [(first, [])]
    let between ← separator
    return (first, between) :: (← itemsUpTo stop item separator fuel)

/-- As many items as there are; no list of items is longer than the tokens that are left. -/
def items {α : Type} (stop : Reading Bool) (item : Reading α) (separator : String) :
    Reading (List (α × List Token)) := do
  itemsUpTo stop item (symbol separator) ((← get).length + 1)

/-- The tokens of items and separators in their order. -/
def joined (items : List (List Token × List Token)) : List Token :=
  items.flatMap fun (item, between) => item ++ between

def list (stop : Reading Bool) (item : Reading (List Token)) (separator : String) :
    Reading (List Token) := do
  return joined (← items stop item separator)

/-- Items joined by plus signs, up to where a test stops; the list also ends after an item that no
plus sign follows. -/
def sumUpTo (stop : Reading Bool) (item : Reading (List Token)) : Nat → Reading (List Token)
  | 0 => failure
  | fuel + 1 => do
    if ← stop then return []
    let first ← item
    if ← seesSymbol "+" then
      return first ++ (← symbol "+") ++ (← sumUpTo stop item fuel)
    else return first

def sum (stop : Reading Bool) (item : Reading (List Token)) : Reading (List Token) := do
  sumUpTo stop item ((← get).length + 1)

end Reading

end IdentityClaims.ErrorEnum
