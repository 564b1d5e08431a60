import IdentityClaims.ErrorEnum.Token

/-!
# Looking ahead in a list of tokens

Which rule of the grammar applies is decided by the tokens that come next. A test may also be made
behind the first of them; a group in brackets then counts as one token.
-/

namespace IdentityClaims.ErrorEnum

/-- The words that are no names unless they are raw. -/
def keywords : List String :=
  ["_", "abstract", "as", "async", "await", "become", "box", "break", "const", "continue", "crate",
   "do", "dyn", "else", "enum", "extern", "false", "final", "fn", "for", "if", "impl", "in", "let",
   "loop", "macro", "match", "mod", "move", "mut", "override", "priv", "pub", "ref", "return",
   "Self", "self", "static", "struct", "super", "trait", "true", "try", "type", "typeof", "unsafe",
   "unsized", "use", "virtual", "where", "while", "yield"]

def Identifier.isName (id : Identifier) : Bool :=
  id.raw || id.text ∉ keywords

/-- The tokens of a symbol at the front, and what follows. All but its last character are joined
to the next one. -/
def symbolAt? : List Char → List Token → Option (List Token × List Token)
  | [], tokens => some ([], tokens)
  | [c], .punct d joined :: rest => if c = d then some ([.punct d joined], rest) else none
  | c :: more, .punct d true :: rest =>
    if c = d then (symbolAt? more rest).map fun (taken, rest) => (.punct d true :: taken, rest)
    else none
  | _, _ => none

/-- The tokens up to the bracket that closes here, and those from it on. -/
def splitClosing : Nat → List Token → List Token × List Token
  | _, [] => ([], [])
  | depth, token :: rest =>
    let further (depth : Nat) : List Token × List Token :=
      let (inner, after) := splitClosing depth rest
      (token :: inner, after)
    match token, depth with
    | .opening _, depth => further (depth + 1)
    | .closing _, 0 => ([], token :: rest)
    | .closing _, depth + 1 => further depth
    | _, depth => further depth

abbrev Lookahead := List Token → Bool

namespace Lookahead

/-- What stands behind the next token, or behind the brackets that open with it. -/
def behind : List Token → List Token
  | .opening _ :: rest => (splitClosing 0 rest).2.drop 1
  | _ :: rest => rest
  | [] => []

def second (look : Lookahead) : Lookahead := fun tokens => look (behind tokens)

def third (look : Lookahead) : Lookahead := fun tokens => look (behind (behind tokens))

def either (first other : Lookahead) : Lookahead := fun tokens => first tokens || other tokens

def both (first other : Lookahead) : Lookahead := fun tokens => first tokens && other tokens

def not (look : Lookahead) : Lookahead := fun tokens => !look tokens

def symbol (text : String) : Lookahead := fun tokens => (symbolAt? text.toList tokens).isSome

def symbols (texts : List String) : Lookahead := fun tokens =>
  texts.any fun text => symbol text tokens

/-- A plain word. A raw identifier is none. -/
def word (text : String) : Lookahead := fun tokens => tokens.head? == some (.word text)

def oneOf (texts : List String) : Lookahead := fun tokens =>
  texts.any fun text => word text tokens

def opening (delimiter : Delimiter) : Lookahead := fun tokens =>
  tokens.head? == some (.opening delimiter)

/-- The enclosing brackets close here, or the tokens end. -/
def closing : Lookahead
  | [] | .closing _ :: _ => true
  | _ => false

def lifetime : Lookahead
  | .lifetime _ :: _ => true
  | _ => false

/-- Any identifier, a keyword too. -/
def identifier : Lookahead
  | .name _ :: _ => true
  | _ => false

def name : Lookahead
  | .name id :: _ => id.isName
  | _ => false

/-- A literal that a sign may be joined to. -/
def isNumeric (text : String) : Bool :=
  match text.toList with
  | c :: _ => c.isDigit
  | [] => false

/-- A literal that is no truth value and has no sign. -/
def unsigned : Lookahead
  | .literal _ :: _ => true
  | _ => false

/-- A literal, a truth value or a negative number. -/
def literal : Lookahead
  | .literal _ :: _ => true
  | .punct '-' _ :: .literal text :: _ => isNumeric text
  | tokens => oneOf ["true", "false"] tokens

/-- A text in plain quotes or a raw one. -/
def quotation : Lookahead
  | .literal text :: _ =>
    match text.toList with
    | c :: _ => c == '"' || c == 'r'
    | [] => false
  | _ => false

/-- A single symbol that does not begin a longer one. -/
def apart (text : String) (longer : List String) : Lookahead :=
  both (symbol text) (not (symbols longer))

/-- A point that begins no range. -/
def point : Lookahead := apart "." [".."]

/-- A colon that begins no path separator. -/
def colon : Lookahead := apart ":" ["::"]

/-- An exclamation mark that begins no comparison. -/
def bang : Lookahead := apart "!" ["!="]

def separatedArguments : Lookahead := both (symbol "::") (third (symbol "<"))

/-- Angle brackets with generic parameters rather than with the type that qualifies a path. -/
def parameters : Lookahead :=
  let afterFirst := either (symbols [">", ",", "="]) colon
  both (symbol "<")
    (either (second (either (symbols [">", "#"]) (word "const")))
      (both (second (either lifetime name)) (third afterFirst)))

end Lookahead

end IdentityClaims.ErrorEnum
