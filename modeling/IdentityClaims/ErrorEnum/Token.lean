/-!
# Tokens of source text

The tokens of an item, flat: brackets are tokens of their own, and a symbol of several
characters is a run of punctuation in which each but the last character is joined to the next.
-/

namespace IdentityClaims.ErrorEnum

/-- An identifier. A raw one is never equal to its plain spelling. -/
structure Identifier where
  text : String
  raw : Bool
  deriving DecidableEq, Repr

namespace Identifier

def spelling (id : Identifier) : String :=
  if id.raw then "r#" ++ id.text else id.text

def plain (text : String) : Identifier := ⟨text, false⟩

end Identifier

inductive Delimiter where
  | paren | bracket | brace
  deriving DecidableEq, Repr

inductive Token where
  | name (id : Identifier)
  | lifetime (id : Identifier)
  | literal (text : String)
  | punct (c : Char) (joined : Bool)
  | opening (delimiter : Delimiter)
  | closing (delimiter : Delimiter)
  deriving DecidableEq, Repr

namespace Token

def text : Token → String
  | .name id => id.spelling
  | .lifetime id => "'" ++ id.spelling
  | .literal text => text
  | .punct c _ => c.toString
  | .opening .paren => "("
  | .opening .bracket => "["
  | .opening .brace => "\x7b"
  | .closing .paren => ")"
  | .closing .bracket => "]"
  | .closing .brace => "\x7d"

def word (text : String) : Token := .name (.plain text)

end Token

def symbolTokens : List Char → List Token
  | [] => []
  | [c] => [.punct c false]
  | c :: rest => .punct c true :: symbolTokens rest

end IdentityClaims.ErrorEnum
