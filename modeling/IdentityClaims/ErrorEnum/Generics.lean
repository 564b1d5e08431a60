import IdentityClaims.ErrorEnum.Path

/-!
# Generic parameters and the conditions on them

Lists of parameters and of conditions leave no trace when they are empty, and lifetimes stand in
front of the other parameters.
-/

namespace IdentityClaims.ErrorEnum.Grammar

open Reading

/-- A colon with bounds. Without bounds the colon is dropped. -/
def colonBounds (g : Grammar) (rules : BoundRules) (stop : Reading Bool) :
    Reading (List Token) := do
  let colon ← optionalSymbol ":"
  let bounds ← if colon.isEmpty then pure [] else sum stop (boundTokens g rules)
  return if bounds.isEmpty then [] else colon ++ bounds

def lifetimeParameter : Reading (List Token) := do
  let parameter ← lifetime
  let colon ← optionalSymbol ":"
  let bounds ← if colon.isEmpty then pure [] else sum (sees (.symbols [",", ">"])) lifetime
  return parameter ++ (if bounds.isEmpty then [] else colon ++ bounds)

def constParameter (g : Grammar) : Reading (List Token) := do
  let keyword ← word "const"
  let id ← name
  let colon ← symbol ":"
  let type ← typeTokens g true
  let equals ← optionalSymbol "="
  return keyword ++ .name id :: colon ++ type ++ equals ++
    (← onlyIf (!equals.isEmpty) (constant g))

def typeParameter (g : Grammar) : Reading (List Token) := do
  let id ← name
  let bounds ← colonBounds g .onParameter (sees (.symbols [",", ">", "="]))
  let equals ← optionalSymbol "="
  return .name id :: bounds ++ equals ++ (← onlyIf (!equals.isEmpty) (typeTokens g true))

/-- One generic parameter, which may be allowed to have no name. -/
def parameterText (g : Grammar) (anonymous : Bool) : Reading ParameterText := do
  let attributes ← g.attributes
  if ← sees .lifetime then return ⟨true, attributes ++ (← lifetimeParameter)⟩
  if ← seesWord "const" then return ⟨false, attributes ++ (← constParameter g)⟩
  if anonymous && (← seesWord "_") then return ⟨false, attributes ++ (← word "_")⟩
  return ⟨false, attributes ++ (← typeParameter g)⟩

def generics (g : Grammar) : Reading (List Token) := do
  if ← seesSymbol "<" then
    let opening ← symbol "<"
    let parameters ← items (seesSymbol ">") (parameterText g true) ","
    let closing ← symbol ">"
    return if parameters.isEmpty then [] else opening ++ lifetimesFirst parameters ++ closing
  else return []

/-! ## Conditions -/

/-- Whether a list of conditions or of bounds ends here. -/
def seesConditionEnd : Reading Bool :=
  sees (.either (.either .closing (.opening .brace)) (.either (.symbols [",", ";", "="]) .colon))

/-- A condition on a lifetime or on a type. -/
def whereCondition (g : Grammar) : Reading (List Token) := do
  if ← sees (.both .lifetime (.second (.symbol ":"))) then
    let subject ← lifetime
    let colon ← symbol ":"
    return subject ++ colon ++ (← sum seesConditionEnd lifetime)
  else
    let parameters ← quantifier g
    let subject ← typeTokens g true
    let colon ← symbol ":"
    return parameters ++ subject ++ colon ++ (← sum seesConditionEnd (boundTokens g .onParameter))

def whereConditions (g : Grammar) : Nat → Reading (List Token)
  | 0 => failure
  | fuel + 1 => do
    if ← seesConditionEnd then return []
    let first ← whereCondition g
    if ← seesSymbol "," then
      let comma ← symbol ","
      return first ++ comma ++ (← whereConditions g fuel)
    else return first

/-- The conditions on the parameters of an item. Parameters of their own they cannot have. -/
def whereClause (g : Grammar) : Reading (List Token) := do
  if ← seesWord "where" then
    let keyword ← word "where"
    if ← sees .parameters then failure
    let all ← fueled (whereConditions g)
    return if all.isEmpty then [] else keyword ++ all
  else return []

end IdentityClaims.ErrorEnum.Grammar
