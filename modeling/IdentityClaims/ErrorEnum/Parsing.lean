import IdentityClaims.ErrorEnum.Declaration
import IdentityClaims.ErrorEnum.Lexer

/-!
# Reading an item from source text

The item that `claimmap_error` stands on. The rules of the grammar are put together level by level.
No item is nested more deeply than it has tokens, so as many levels as there are tokens suffice.
-/

namespace IdentityClaims.ErrorEnum

open Reading

inductive Item where
  | enumeration (enumeration : Enumeration)
  /-- A struct or a union. -/
  | other
  deriving DecidableEq, Repr

namespace Grammar

/-- The grammar below all levels, in which nothing can be read. -/
def bottom : Grammar where
  type _ := failure
  bound _ := failure
  parameter := failure
  expression _ _ := failure
  standalone := failure
  pattern := failure
  statements := failure
  item := failure
  attributes := failure
  innerAttributes := failure

/-- The grammar in terms of the level below it. -/
def next (g : Grammar) : Grammar where
  type := typeText g
  bound := anyBound g
  parameter := parameterText g false
  expression := expressionText g
  standalone := standaloneText g
  pattern := patternText g
  statements := statementTokens g
  item := itemTokens g
  attributes := attributeTokens g
  innerAttributes := innerAttributeTokens g

def deep : Nat → Grammar
  | 0 => bottom
  | depth + 1 => next (deep depth)

def wholeItem (g : Grammar) : Reading Item := do
  let attributes ← leadingAttributes g
  let visibility ← visibility
  let read ← if ← seesWord "struct" then do
      let _ ← structTokens g
      pure Item.other
    else if ← seesWord "union" then do
      let _ ← unionTokens g
      pure Item.other
    else do pure (Item.enumeration (← enumeration g attributes visibility))
  if (← get).isEmpty then return read else failure

end Grammar

/-- The item that a source text holds. -/
def Item.parse? (source : String) : Option Item := do
  let tokens ← tokens? source
  let levels := 4 * tokens.length + 16
  let (item, _) ← (Grammar.wholeItem (Grammar.deep levels)).run tokens
  return item

end IdentityClaims.ErrorEnum
