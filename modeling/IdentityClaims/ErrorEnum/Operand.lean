import IdentityClaims.ErrorEnum.Pattern

/-!
# Operands

The operands of expressions: literals, paths and what they name, groups, blocks, loops and choices
between blocks, closures and jumps. Where a block follows an expression, a brace after a path in it
begins that block.
-/

namespace IdentityClaims.ErrorEnum.Grammar

open Reading

/-! ## Blocks -/

/-- Whether an operand comes next that ends a statement on its own. -/
def startsBlock : Lookahead :=
  .either (.either (.opening .brace) (.oneOf ["if", "while", "loop", "match", "unsafe"]))
    (.either (.both (.word "for") (.not (.second .parameters)))
      (.both (.oneOf ["try", "const"]) (.second (.opening .brace))))

def choice (g : Grammar) : Nat → Reading (List Token)
  | 0 => failure
  | fuel + 1 => do
    let keyword ← word "if"
    let condition ← condition g
    let first := keyword ++ condition ++ (← block g)
    if ← seesWord "else" then
      let keyword ← word "else"
      let other ← if ← seesWord "if" then choice g fuel else block g
      return first ++ keyword ++ other
    else return first

/-- One arm of a choice by patterns. A comma ends it unless its expression ends on its own. -/
def arm (g : Grammar) : Reading (List Token) := do
  let attributes ← g.attributes
  let patterns ← patternTokens g
  let guard ← if ← seesWord "if" then do pure ((← word "if") ++ (← value g)) else pure []
  let arrow ← symbol "=>"
  let result ← g.standalone
  let needsComma := result.form != .block && !(← seesClosing)
  let comma ← if needsComma then symbol "," else optionalSymbol ","
  return attributes ++ patterns ++ guard ++ arrow ++ result.tokens ++ comma

def selection (g : Grammar) : Reading (List Token) := do
  let keyword ← word "match"
  let subject ← condition g
  let arms ← group .brace do return (← g.innerAttributes) ++ (← many (arm g))
  return keyword ++ subject ++ arms

def loop (g : Grammar) : Reading (List Token) := do
  if ← seesWord "loop" then return (← word "loop") ++ (← body g)
  if ← seesWord "while" then
    let keyword ← word "while"
    let condition ← condition g
    return keyword ++ condition ++ (← body g)
  let keyword ← word "for"
  let patterns ← patternTokens g
  let membership ← word "in"
  let source ← condition g
  return keyword ++ patterns ++ membership ++ source ++ (← body g)

/-- An operand that ends a statement on its own. -/
def blockOperand (g : Grammar) : Reading (List Token) := do
  if ← seesOpening .brace then return ← body g
  if ← seesWord "if" then return ← fueled (choice g)
  if ← seesWord "match" then return ← selection g
  if ← seesWord "try" then return (← word "try") ++ (← block g)
  if ← sees (.oneOf ["unsafe", "const"]) then return (← any) :: (← body g)
  loop g

def labelled (g : Grammar) : Reading (List Token) := do
  let label ← lifetime
  let colon ← symbol ":"
  let labelled ← if ← seesOpening .brace then body g else loop g
  return label ++ colon ++ labelled

/-! ## Ranges -/

def endsRange (braces : Bool) : Lookahead :=
  let signs := Lookahead.either .point (.symbols
    [",", ";", "?", "=>", "=", "+", "/", "%", "^", ">", "<=", "!=", "-=", "*=", "&=", "|=", "<<="])
  let always := Lookahead.either signs (.either .closing (.word "as"))
  if braces then always else .either always (.opening .brace)

/-- The symbol of a range and its upper end, and whether it has one. -/
def rangeRest (g : Grammar) (braces : Bool) : Reading (List Token × Bool) := do
  if ← seesSymbol "..=" then
    let dots ← symbol "..="
    return (dots ++ (← g.expression braces .disjunction).tokens, true)
  if ← seesSymbol "..." then failure
  let dots ← symbol ".."
  if ← sees (endsRange braces) then return (dots, false)
  else return (dots ++ (← g.expression braces .disjunction).tokens, true)

/-! ## Closures -/

/-- Whether a closure comes next, unless it is a block of its own. -/
def startsClosure : Lookahead :=
  .either (.either (.symbol "|") (.oneOf ["move", "static", "const"]))
    (.either (.both (.word "for") (.second .parameters))
      (.both (.word "async") (.second (.either (.symbol "|") (.word "move")))))

/-- A parameter of a closure. A pattern that is kept as it is written loses its attributes. -/
def closureParameter (g : Grammar) : Reading (List Token) := do
  let attributes ← g.attributes
  let pattern ← g.pattern
  if ← seesSymbol ":" then
    let colon ← symbol ":"
    return attributes ++ pattern.tokens ++ colon ++ (← typeTokens g true)
  else return if pattern.form == .written then pattern.tokens else attributes ++ pattern.tokens

/-- A closure. If it names the type of its result, its body is a block. -/
def closure (g : Grammar) (braces : Bool) : Reading (List Token) := do
  let parameters ← quantifier g
  let constness ← optionalWord "const"
  let place ← optionalWord "static"
  let asyncness ← optionalWord "async"
  let capture ← optionalWord "move"
  let opening ← symbol "|"
  let inputs ← list (seesSymbol "|") (closureParameter g) ","
  let closing ← symbol "|"
  let result ← if ← seesSymbol "->" then do
      let arrow ← symbol "->"
      let type ← typeTokens g true
      pure (arrow ++ type ++ (← block g))
    else do pure (← g.expression braces .lowest).tokens
  return parameters ++ constness ++ place ++ asyncness ++ capture ++ opening ++ inputs ++ closing ++
    result

/-! ## Jumps -/

/-- Whether an expression comes next, where it may be missing. -/
def startsExpression : Lookahead :=
  let word := Lookahead.both .identifier (.not (.word "as"))
  let group := Lookahead.either (.opening .paren)
    (.either (.opening .bracket) (.opening .brace))
  let leaf := Lookahead.either word (.either .lifetime .literal)
  let sign := Lookahead.either (.symbols ["..", "::", "#"])
    (.either (.either .bang (.apart "-" ["-=", "->"]))
      (.either (.either (.apart "*" ["*="]) (.apart "|" ["|="]))
        (.either (.apart "&" ["&="]) (.apart "<" ["<=", "<<="]))))
  .either (.either leaf group) sign

/-- A jump out of a loop or a block. A label that a loop of its own carries needs parentheses. -/
def breakJump (g : Grammar) (braces : Bool) : Reading (List Token) := do
  let keyword ← word "break"
  let label ← onlyIf (← sees .lifetime) lifetime
  if !label.isEmpty && (← seesSymbol ":") then failure
  let valued := (← sees startsExpression) && (braces || !(← seesOpening .brace))
  return keyword ++ label ++ (← onlyIf valued (value g))

def jump (g : Grammar) (braces : Bool) : Reading (List Token) := do
  if ← seesWord "break" then return ← breakJump g braces
  if ← seesWord "continue" then
    let keyword ← word "continue"
    return keyword ++ (← onlyIf (← sees .lifetime) lifetime)
  let keyword ← if ← seesWord "return" then word "return" else word "yield"
  return keyword ++ (← onlyIf (← sees startsExpression) (value g))

/-! ## Paths -/

def startsPathOperand : Lookahead :=
  .either startsAnyPath (.both (.word "try") (.second (.symbols ["!", "::"])))

def values (g : Grammar) : Reading (List Token) := list seesClosing (value g) ","

/-- The value of a field; a name alone stands for both. -/
def fieldValue (g : Grammar) : Reading (List Token) := do
  let attributes ← g.attributes
  let (field, named) ← member
  if named && !(← seesSymbol ":") then return attributes ++ field
  let colon ← symbol ":"
  return attributes ++ field ++ colon ++ (← value g)

/-- The values of fields. The others may be taken from a value at the end. -/
def fieldValues (g : Grammar) : Nat → Reading (List Token)
  | 0 => failure
  | fuel + 1 => do
    if ← seesClosing then return []
    if ← seesSymbol ".." then
      let dots ← symbol ".."
      return dots ++ (← onlyIf (!(← seesClosing)) (value g))
    let first ← fieldValue g
    if ← seesClosing then return first
    let comma ← symbol ","
    return first ++ comma ++ (← fieldValues g fuel)

/-- A path on its own, a call by name or the value of a structure. -/
def pathOperand (g : Grammar) (braces : Bool) : Reading ExpressionText := do
  let path ← anyPath g true
  if path.plain && (← sees .bang) then
    let bang ← symbol "!"
    let braced ← seesOpening .brace
    return ⟨path.tokens ++ bang ++ (← anyGroup), .invocation braced, false⟩
  if braces && (← seesOpening .brace) then
    return ⟨path.tokens ++ (← group .brace (fueled (fieldValues g))), .other, false⟩
  return ⟨path.tokens, .other, false⟩

/-! ## All operands -/

/-- What stands in brackets: items, or one item and how often it is repeated. -/
def arrayItems (g : Grammar) : Reading (List Token) := do
  if ← seesClosing then return []
  let first ← value g
  if ← seesSymbol ";" then return first ++ (← symbol ";") ++ (← value g)
  if ← seesClosing then return first
  let comma ← symbol ","
  return first ++ comma ++ (← values g)

/-- A condition that binds the names of a pattern. -/
def bindingCondition (g : Grammar) (braces : Bool) : Reading (List Token) := do
  let keyword ← word "let"
  let patterns ← patternTokens g
  let equals ← symbol "="
  return keyword ++ patterns ++ equals ++ (← g.expression braces .comparison).tokens

/-- Whether an operand comes next that is kept as it is written. -/
def startsWritten : Lookahead :=
  .either (.word "become") (.both (.word "builtin") (.second (.symbol "#")))

/-- An operand that is kept as it is written. -/
def writtenOperand (g : Grammar) : Reading (List Token) :=
  asWritten do
    if ← seesWord "become" then return (← word "become") ++ (← value g)
    let keyword ← word "builtin"
    let mark ← symbol "#"
    let id ← name
    return keyword ++ mark ++ .name id :: (← group .paren verbatim)

/-- An operand that starts with a word or a bracket and none of whose other properties count. -/
def plainOperand (g : Grammar) (braces : Bool) : Reading (List Token) := do
  if ← seesOpening .paren then return ← group .paren (values g)
  if ← seesOpening .bracket then return ← group .bracket (arrayItems g)
  if ← sees (.oneOf ["break", "continue", "return", "yield"]) then return ← jump g braces
  if ← seesWord "let" then return ← bindingCondition g braces
  if ← seesWord "_" then return ← word "_"
  let opened := Lookahead.opening .brace
  let asyncBlock := Lookahead.both (.word "async")
    (.either (.second opened) (.both (.second (.word "move")) (.third opened)))
  if ← sees asyncBlock then
    let keyword ← word "async"
    let capture ← optionalWord "move"
    return keyword ++ capture ++ (← block g)
  if ← sees startsClosure then return ← closure g braces
  failure

/-- An operand without operators and without what may follow it. -/
def operand (g : Grammar) (braces : Bool) : Reading ExpressionText := do
  if ← sees .literal then return ⟨← literal, .other, false⟩
  if ← sees startsBlock then return ⟨← blockOperand g, .block, false⟩
  if ← sees .lifetime then return ⟨← labelled g, .block, false⟩
  if ← sees startsWritten then return ⟨← writtenOperand g, .written, true⟩
  if ← sees startsPathOperand then return ← pathOperand g braces
  if ← seesSymbol ".." then
    let (tokens, closed) ← rangeRest g braces
    return ⟨tokens, .range closed, false⟩
  return ⟨← plainOperand g braces, .other, false⟩

end IdentityClaims.ErrorEnum.Grammar
