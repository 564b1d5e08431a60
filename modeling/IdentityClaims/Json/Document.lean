import IdentityClaims.Json.Token

/-!
# JSON documents

A document is JSON as it is written: members may repeat, numbers keep their digits, and texts
may hold escapes that stand for no character. What such a document means is decided by whoever
reads it.
-/

namespace IdentityClaims.Json

inductive Document where
  | null
  | boolean (value : Bool)
  | number (numeral : Numeral)
  | text (raw : RawText)
  | array (items : List Document)
  | object (members : List (RawText × Document))
  deriving Repr

namespace Document

mutual

/-- A document at the front of a list of tokens, and the tokens after it. -/
def read? : Nat → List Token → Option (Document × List Token)
  | 0, _ => none
  | fuel + 1, tokens =>
    match tokens with
    | .null :: rest => some (.null, rest)
    | .boolean b :: rest => some (.boolean b, rest)
    | .number n :: rest => some (.number n, rest)
    | .text t :: rest => some (.text t, rest)
    | .openBracket :: .closeBracket :: rest => some (.array [], rest)
    | .openBracket :: rest => do
      let (items, rest) ← readItems? fuel rest
      return (.array items, rest)
    | .openBrace :: .closeBrace :: rest => some (.object [], rest)
    | .openBrace :: rest => do
      let (members, rest) ← readMembers? fuel rest
      return (.object members, rest)
    | _ => none

/-- One or more items up to the closing bracket. -/
def readItems? : Nat → List Token → Option (List Document × List Token)
  | 0, _ => none
  | fuel + 1, tokens => do
    let (item, rest) ← read? fuel tokens
    match rest with
    | .closeBracket :: rest => return ([item], rest)
    | .comma :: rest =>
      let (items, rest) ← readItems? fuel rest
      return (item :: items, rest)
    | _ => none

/-- One or more members up to the closing brace. -/
def readMembers? : Nat → List Token → Option (List (RawText × Document) × List Token)
  | 0, _ => none
  | fuel + 1, tokens =>
    match tokens with
    | .text key :: .colon :: rest => do
      let (value, rest) ← read? fuel rest
      match rest with
      | .closeBrace :: rest => return ([(key, value)], rest)
      | .comma :: rest =>
        let (members, rest) ← readMembers? fuel rest
        return ((key, value) :: members, rest)
      | _ => none
    | _ => none

end

/-- The document a text holds, with nothing but blanks around it. -/
def parse? (text : String) : Option Document := do
  let tokens ← Token.ofText? text
  match ← read? (2 * tokens.length + 1) tokens with
  | (document, []) => return document
  | _ => none

mutual

/-- How many arrays and objects enclose the innermost part, itself included. -/
def depth : Document → Nat
  | .array items => itemsDepth items + 1
  | .object members => membersDepth members + 1
  | _ => 0

def itemsDepth : List Document → Nat
  | [] => 0
  | item :: rest => max item.depth (itemsDepth rest)

def membersDepth : List (RawText × Document) → Nat
  | [] => 0
  | (_, value) :: rest => max value.depth (membersDepth rest)

end

end Document

end IdentityClaims.Json
