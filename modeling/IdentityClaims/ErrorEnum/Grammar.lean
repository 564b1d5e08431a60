import IdentityClaims.ErrorEnum.Reading

/-!
# The grammar and its levels

Types occur in expressions, expressions in types, and statements in both. So the rules of each
level of the grammar are stated in terms of a grammar for the level below it, and what a rule needs
to know of the part it encloses is kept beside the tokens of that part.
-/

namespace IdentityClaims.ErrorEnum

/-- What the forms of types differ in where one goes on after another. -/
inductive TypeShape where
  /-- One name, with or without arguments in angle brackets. -/
  | name
  /-- Any other path without a qualifying type. -/
  | path
  /-- A single bound in place of a type. -/
  | bound
  /-- A single bound with parentheses of its own. -/
  | enclosedBound
  /-- A type in parentheses. -/
  | enclosed
  | other
  deriving DecidableEq, Repr

structure TypeText where
  tokens : List Token
  shape : TypeShape
  deriving DecidableEq, Repr

/-- Where a bound stands decides what may be a bound. -/
structure BoundRules where
  /-- A list of captured parameters may stand in place of a bound. -/
  capture : Bool
  /-- A bound may be marked as one on constants. -/
  constness : Bool
  deriving DecidableEq, Repr

namespace BoundRules

/-- Bounds on a parameter, on an associated type or on what a trait extends. -/
def onParameter : BoundRules := ⟨false, true⟩

def onOpaqueType : BoundRules := ⟨true, true⟩

def onObject : BoundRules := ⟨false, false⟩

end BoundRules

structure BoundText where
  tokens : List Token
  /-- Names a trait, and is neither a lifetime nor a list of captured parameters. -/
  isTrait : Bool
  deriving DecidableEq, Repr

structure ParameterText where
  isLifetime : Bool
  tokens : List Token
  deriving DecidableEq, Repr

/-- How strongly an operator between two operands binds, the weakest first. -/
inductive Precedence where
  | lowest | assignment | range | disjunction | conjunction | comparison | bitOr | bitXor | bitAnd
  | shift | sum | product | conversion
  deriving DecidableEq, Repr

def Precedence.rank : Precedence → Nat
  | .lowest => 0
  | .assignment => 1
  | .range => 2
  | .disjunction => 3
  | .conjunction => 4
  | .comparison => 5
  | .bitOr => 6
  | .bitXor => 7
  | .bitAnd => 8
  | .shift => 9
  | .sum => 10
  | .product => 11
  | .conversion => 12

/-- What the forms of expressions differ in where something follows. -/
inductive ExpressionForm where
  /-- A block, a loop or a choice between blocks, which ends a statement on its own. -/
  | block
  /-- A call by name with any tokens, and whether those stand in braces. -/
  | invocation (braced : Bool)
  /-- A range, and whether it has an upper end. -/
  | range (closed : Bool)
  | comparison
  /-- A form that is kept as it is written. -/
  | written
  | other
  deriving DecidableEq, Repr

structure ExpressionText where
  tokens : List Token
  form : ExpressionForm
  /-- The first operand is kept as it is written, so attributes in front of it are lost. -/
  startsWritten : Bool
  deriving DecidableEq, Repr

/-- What the forms of patterns differ in where one encloses another. -/
inductive PatternForm where
  /-- A range with one end only. -/
  | halfOpen
  /-- A form that is kept as it is written. -/
  | written
  | other
  deriving DecidableEq, Repr

structure PatternText where
  tokens : List Token
  form : PatternForm
  deriving DecidableEq, Repr

/-- The readings that the level below offers. -/
structure Grammar where
  /-- A type; the flag says whether bounds may be added to it. -/
  type : Bool → Reading TypeText
  bound : BoundRules → Reading BoundText
  parameter : Reading ParameterText
  /-- An expression of operators that bind at least so strongly; the flag says whether a brace
  after a path belongs to it. -/
  expression : Bool → Precedence → Reading ExpressionText
  /-- An expression that ends where a statement would. -/
  standalone : Reading ExpressionText
  /-- A pattern without alternatives. -/
  pattern : Reading PatternText
  /-- The statements up to a closing brace. -/
  statements : Reading (List Token)
  /-- An item with its attributes. -/
  item : Reading (List Token)
  /-- The attributes in front of something. -/
  attributes : Reading (List Token)
  /-- The attributes at the beginning of a body. -/
  innerAttributes : Reading (List Token)

namespace Grammar

open Reading

def typeTokens (g : Grammar) (plus : Bool) : Reading (List Token) := do
  return (← g.type plus).tokens

def value (g : Grammar) : Reading (List Token) := do
  return (← g.expression true .lowest).tokens

def condition (g : Grammar) : Reading (List Token) := do
  return (← g.expression false .lowest).tokens

def block (g : Grammar) : Reading (List Token) := group .brace g.statements

def body (g : Grammar) : Reading (List Token) :=
  group .brace do return (← g.innerAttributes) ++ (← g.statements)

end Grammar

end IdentityClaims.ErrorEnum
