import IdentityClaims.ErrorEnum.Operand

/-!
# Expressions

Operands with what may follow them and operators between them. How strongly operators bind matters
for what is refused: comparisons and ranges do not chain, nothing is assigned to a range, and
nothing that follows an operand may follow a conversion.
-/

namespace IdentityClaims.ErrorEnum

open Reading

def ExpressionText.isRange (text : ExpressionText) : Bool :=
  match text.form with
  | .range _ => true
  | _ => false

/-- Operators between two operands, longer ones first. -/
def binaryOperators : List (String × Precedence) :=
  [("+=", .assignment), ("-=", .assignment), ("*=", .assignment), ("/=", .assignment),
   ("%=", .assignment), ("^=", .assignment), ("&=", .assignment), ("|=", .assignment),
   ("<<=", .assignment), (">>=", .assignment), ("&&", .conjunction), ("||", .disjunction),
   ("<<", .shift), (">>", .shift), ("==", .comparison), ("<=", .comparison), ("!=", .comparison),
   (">=", .comparison), ("+", .sum), ("-", .sum), ("*", .product), ("/", .product),
   ("%", .product), ("^", .bitXor), ("&", .bitAnd), ("|", .bitOr), ("<", .comparison),
   (">", .comparison)]

/-- How strongly an operator has to bind to the right of another one in order to go first. -/
def Precedence.right : Precedence → Precedence
  | .lowest | .assignment => .assignment
  | .range => .disjunction
  | .disjunction => .conjunction
  | .conjunction => .comparison
  | .comparison => .bitOr
  | .bitOr => .bitXor
  | .bitXor => .bitAnd
  | .bitAnd => .shift
  | .shift => .sum
  | .sum => .product
  | .product | .conversion => .conversion

namespace Grammar

/-! ## What follows an operand -/

/-- A field or a method behind a point. Arguments in angle brackets call for a method. -/
def namedAccess (g : Grammar) : Reading (List Token) := do
  if ← seesWord "await" then return ← word "await"
  let (field, named) ← member
  if named && (← seesSymbol "::") then
    let separator ← symbol "::"
    let arguments ← genericArguments g
    return field ++ separator ++ arguments ++ (← group .paren (values g))
  else return field

/-- A point and what it gives access to: numbers of fields, a field or a method. -/
def access (g : Grammar) : Reading (List Token) := do
  let point ← symbol "."
  if ← sees .unsigned then
    match ← any with
    | .literal text =>
      match fieldNumbers? text with
      | some (numbers, false) => return point ++ numberTokens numbers
      | some (numbers, true) =>
        return point ++ numberTokens numbers ++ .punct '.' false :: (← namedAccess g)
      | none => failure
    | _ => failure
  else return point ++ (← namedAccess g)

/-- An operand with what follows it: calls, indices, members and question marks. -/
def followed (g : Grammar) (first : ExpressionText) : Nat → Reading ExpressionText
  | 0 => failure
  | fuel + 1 => do
    let further (tokens : List Token) : Reading ExpressionText :=
      followed g ⟨first.tokens ++ tokens, .other, false⟩ fuel
    if ← seesOpening .paren then return ← further (← group .paren (values g))
    if first.isRange then return first
    if ← sees .point then return ← further (← access g)
    if ← seesOpening .bracket then return ← further (← group .bracket (value g))
    if ← seesSymbol "?" then return ← further (← symbol "?")
    return first

/-! ## Operators -/

/-- An operand with the operators in front of it and what follows it. A range without a start
takes no attributes. -/
def term (g : Grammar) (braces : Bool) : Nat → Reading ExpressionText
  | 0 => failure
  | fuel + 1 => do
    let before ← get
    let attributes ← g.attributes
    let under (operators : List Token) : Reading ExpressionText := do
      return ⟨attributes ++ operators ++ (← term g braces fuel).tokens, .other, false⟩
    if ← seesSymbol "&" then
      let ampersand ← symbol "&"
      let raw := Lookahead.both (.word "raw") (.second (.oneOf ["mut", "const"]))
      let kind ← onlyIf (← sees raw) (word "raw")
      let access ← if kind.isEmpty then optionalWord "mut" else do pure [← any]
      return ← under (ampersand ++ kind ++ access)
    if ← sees (.symbols ["*", "!", "-"]) then return ← under [← any]
    let first ← operand g braces
    let text ← fueled (followed g first)
    if text.form == .written then return { text with tokens := ← writtenSince before }
    if text.isRange && !attributes.isEmpty then failure
    return { text with tokens := attributes ++ text.tokens }

/-- What cannot follow a conversion. -/
def followsOperand : Lookahead :=
  .either (.either .point (.symbol "?")) (.either (.opening .bracket) (.opening .paren))

/-- The operators that bind at least so strongly, with their right operands. -/
def operators (g : Grammar) (braces : Bool) (base : Precedence) (left : ExpressionText) :
    Nat → Reading ExpressionText
  | 0 => failure
  | fuel + 1 => do
    let binds (precedence : Precedence) : Bool := base.rank ≤ precedence.rank
    let further (tokens : List Token) (form : ExpressionForm) : Reading ExpressionText :=
      operators g braces base
        ⟨left.tokens ++ tokens, form, left.startsWritten && form != .range true &&
          form != .range false⟩ fuel
    if left.form == .range true then return left
    let tokens ← get
    match binaryOperators.find? fun (text, _) => Lookahead.symbol text tokens with
    | some (text, precedence) =>
      if !binds precedence || (precedence == .assignment && left.isRange) then return left
      if precedence == .comparison && left.form == .comparison then failure
      let operator ← symbol text
      let right ← g.expression braces precedence.right
      let form := if precedence == .comparison then .comparison else .other
      further (operator ++ right.tokens) form
    | none =>
      if binds .assignment && !left.isRange && (← sees (.apart "=" ["=>"])) then
        let equals ← symbol "="
        let right ← g.expression braces .assignment
        return ← further (equals ++ right.tokens) .other
      if binds .range && (← seesSymbol "..") then
        let (rest, closed) ← rangeRest g braces
        return ← further rest (.range closed)
      if binds .conversion && (← seesWord "as") then
        let keyword ← word "as"
        let type ← typeTokens g false
        if ← sees followsOperand then failure
        return ← further (keyword ++ type) .other
      return left

/-! ## All expressions -/

/-- An expression of operators that bind at least so strongly. -/
def expressionText (g : Grammar) (braces : Bool) (base : Precedence) : Reading ExpressionText := do
  let first ← fueled (term g braces)
  fueled (operators g braces base first)

/-- An expression that ends where a statement would: an operand that ends a statement goes on only
with a point or a question mark. -/
def standaloneText (g : Grammar) : Reading ExpressionText := do
  let attributes ← g.attributes
  let marked (text : ExpressionText) : ExpressionText :=
    if text.form == .written then text else { text with tokens := attributes ++ text.tokens }
  let first ← if ← sees (.either startsBlock .lifetime) then operand g true
    else fueled (term g true)
  if first.form != .block then return ← fueled (operators g true .lowest (marked first))
  if ← sees (.either .point (.symbol "?")) then
    let text ← fueled (followed g first)
    return ← fueled (operators g true .lowest (marked text))
  return marked first

end Grammar

end IdentityClaims.ErrorEnum
