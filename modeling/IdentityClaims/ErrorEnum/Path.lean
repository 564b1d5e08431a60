import IdentityClaims.ErrorEnum.Grammar

/-!
# Paths, their arguments and bounds

A path is read into the normal form of its tokens: lifetimes stand in front of the other arguments,
and no separator stands before the arguments of a bound in parentheses.
-/

namespace IdentityClaims.ErrorEnum

open Reading

structure PathText where
  tokens : List Token
  /-- Starts with a type in angle brackets. -/
  qualified : Bool
  /-- Starts with a separator. -/
  global : Bool
  segments : Nat
  /-- No segment has arguments. -/
  plain : Bool
  /-- The last segment has no arguments. -/
  bare : Bool
  /-- The last segment has arguments in parentheses. -/
  called : Bool
  deriving DecidableEq, Repr

namespace Grammar

/-- A literal. A sign in front of it stays a token of its own. -/
def literal : Reading (List Token) := do
  match ← any with
  | .punct '-' joined =>
    match ← any with
    | .literal text => return [.punct '-' joined, .literal text]
    | _ => failure
  | token => return [token]

/-- A constant among generic arguments: a literal, a name or a block. -/
def constant (g : Grammar) : Reading (List Token) := do
  if ← sees .literal then literal
  else if ← seesOpening .brace then body g
  else return [.name (← name)]

/-- Lifetimes in front of other items. A comma is added where the last lifetime had none. -/
def lifetimesFirst (items : List (ParameterText × List Token)) : List Token :=
  let (lifetimes, others) := items.partition (·.1.isLifetime)
  let flat (part : List (ParameterText × List Token)) : List Token :=
    joined (part.map fun (item, between) => (item.tokens, between))
  let comma := match lifetimes.getLast? with
    | some (_, []) => if others.isEmpty then [] else [.punct ',' false]
    | _ => []
  flat lifetimes ++ comma ++ flat others

/-- The parameters that a type or a bound is about, if it names any. -/
def quantifier (g : Grammar) : Reading (List Token) := do
  if ← seesWord "for" then
    let keyword ← word "for"
    let opening ← symbol "<"
    let parameter := do return (← g.parameter).tokens
    let parameters ← list (seesSymbol ">") parameter ","
    return keyword ++ opening ++ parameters ++ (← symbol ">")
  else return []

/-! ## Arguments -/

/-- The type after an arrow, if there is one. -/
def returned (g : Grammar) : Reading (List Token) := do
  if ← seesSymbol "->" then return (← symbol "->") ++ (← typeTokens g false) else return []

/-- Arguments in parentheses, as functions have them, and whether a path may go on behind them: it
does so unless they lead to a type without parentheses. -/
def callArguments (g : Grammar) : Reading (List Token × Bool) := do
  let arguments ← group .paren (list seesClosing (typeTokens g true) ",")
  if ← seesSymbol "->" then
    let arrow ← symbol "->"
    let result ← g.type false
    return (arguments ++ arrow ++ result.tokens, result.shape == .enclosed)
  else return (arguments, true)

/-- What an associated type is set to or bounded by. -/
def association (g : Grammar) : Reading (List Token) := do
  if ← seesSymbol "=" then
    let equals ← symbol "="
    let constant? ← sees (.either .literal (.opening .brace))
    return equals ++ (← if constant? then constant g else typeTokens g true)
  if ← seesSymbol ":" then
    let colon ← symbol ":"
    let bound := do return (← g.bound .onParameter).tokens
    return colon ++ (← sum (sees (.symbols [",", ">"])) bound)
  return []

def genericArgument (g : Grammar) : Reading ParameterText := do
  let added ← sees (.second (.symbol "+"))
  if (← sees .lifetime) && !added then return ⟨true, ← lifetime⟩
  if ← sees (.either .literal (.opening .brace)) then return ⟨false, ← constant g⟩
  let argument ← g.type true
  if argument.shape == .name then return ⟨false, argument.tokens ++ (← association g)⟩
  else return ⟨false, argument.tokens⟩

def genericArguments (g : Grammar) : Reading (List Token) := do
  let opening ← symbol "<"
  let arguments ← items (seesSymbol ">") (genericArgument g) ","
  return opening ++ lifetimesFirst arguments ++ (← symbol ">")

/-! ## Segments -/

def pathWords : List String := ["super", "self", "crate", "try"]

/-- A segment of a path, and whether it has arguments. In an expression only a separator
introduces them. -/
def segment (g : Grammar) (inExpression : Bool) : Reading (List Token × Bool) := do
  if ← sees (.oneOf pathWords) then return ([.name (← identifier)], false)
  let id ← if ← seesWord "Self" then identifier else name
  let direct := !inExpression && (← sees (.apart "<" ["<=", "<<="]))
  if direct || (← sees .separatedArguments) then
    let separator ← optionalSymbol "::"
    return (.name id :: separator ++ (← genericArguments g), true)
  else return ([.name id], false)

/-- The further segments of a path. A separator before arguments in parentheses ends it. -/
def pathRest (g : Grammar) (inExpression : Bool) (path : PathText) : Nat → Reading PathText
  | 0 => failure
  | fuel + 1 => do
    let called := Lookahead.third (.opening .paren)
    if ← sees (.both (.symbol "::") (.not called)) then
      let separator ← symbol "::"
      let (tokens, hasArguments) ← segment g inExpression
      pathRest g inExpression
        { path with
          tokens := path.tokens ++ separator ++ tokens
          segments := path.segments + 1
          plain := path.plain && !hasArguments
          bare := !hasArguments
          called := false }
        fuel
    else return path

def path (g : Grammar) (inExpression : Bool) : Reading PathText := do
  let separator ← optionalSymbol "::"
  let (tokens, hasArguments) ← segment g inExpression
  fueled (pathRest g inExpression
    ⟨separator ++ tokens, false, !separator.isEmpty, 1, !hasArguments, !hasArguments, false⟩)

/-- A path that starts with a type in angle brackets. -/
def qualifiedPath (g : Grammar) (inExpression : Bool) : Reading PathText := do
  let opening ← symbol "<"
  let self ← typeTokens g true
  let trait ← if ← seesWord "as" then do
      let keyword ← word "as"
      pure (keyword ++ (← path g false).tokens)
    else pure []
  let closing ← symbol ">"
  let separator ← symbol "::"
  let (first, hasArguments) ← segment g inExpression
  let start := opening ++ self ++ trait ++ closing ++ separator ++ first
  fueled (pathRest g inExpression ⟨start, true, false, 1, false, !hasArguments, false⟩)

def anyPath (g : Grammar) (inExpression : Bool) : Reading PathText := do
  if ← seesSymbol "<" then qualifiedPath g inExpression else path g inExpression

/-! ## Bounds -/

def capture : Reading (List Token) := do
  let keyword ← word "use"
  let opening ← symbol "<"
  let parameter : Reading ParameterText := do
    if ← sees .lifetime then return ⟨true, ← lifetime⟩
    else if ← seesWord "Self" then return ⟨false, [.name (← identifier)]⟩
    else return ⟨false, [.name (← name)]⟩
  let parameters ← items (seesSymbol ">") parameter ","
  return keyword ++ opening ++ lifetimesFirst parameters ++ (← symbol ">")

/-- The mark of a bound on constants, if there is one. -/
def constness : Reading (List Token) := do
  if ← seesOpening .bracket then group .bracket (word "const") else optionalWord "const"

/-- A trait as a bound. One on constants has no normal form, and no parameters go with the mark of
an optional bound. -/
def traitBound (g : Grammar) (rules : BoundRules) : Reading (Option (List Token)) := do
  let parameters ← quantifier g
  let constness ← constness
  if !constness.isEmpty && !rules.constness then failure
  let mark ← optionalSymbol "?"
  if !mark.isEmpty && !parameters.isEmpty then failure
  let path ← path g false
  let called := Lookahead.either (.opening .paren)
    (.both (.symbol "::") (.third (.opening .paren)))
  let arguments ← if path.bare && (← sees called) then do
      let _ ← optionalSymbol "::"
      pure (← callArguments g).1
    else pure []
  return if constness.isEmpty then some (mark ++ parameters ++ path.tokens ++ arguments) else none

/-- One bound: a lifetime, a list of captured parameters or a trait. -/
def anyBound (g : Grammar) (rules : BoundRules) : Reading BoundText := do
  if ← sees .lifetime then return ⟨← lifetime, false⟩
  if ← seesWord "use" then
    if rules.capture then return ⟨← capture, false⟩ else failure
  let tokens ← normalOrWritten do
    if ← seesOpening .paren then
      return (← inside .paren (traitBound g rules)).map (bracketed .paren)
    else traitBound g rules
  return ⟨tokens, true⟩

def boundTokens (g : Grammar) (rules : BoundRules) : Reading (List Token) := do
  return (← anyBound g rules).tokens

def startsBound (rules : BoundRules) : Lookahead :=
  let always := Lookahead.either
    (.either .identifier .lifetime) (.either (.symbols ["::", "?"]) (.opening .paren))
  if rules.constness then .either always (.opening .bracket) else always

/-- Bounds after a first one, as long as plus signs and bounds follow. -/
def boundsUpTo (g : Grammar) (rules : BoundRules) : Nat → Reading BoundText
  | 0 => failure
  | fuel + 1 => do
    if ← seesSymbol "+" then
      let plus ← symbol "+"
      if ← sees (.not (startsBound rules)) then return ⟨plus, false⟩
      let first ← anyBound g rules
      let rest ← boundsUpTo g rules fuel
      return ⟨plus ++ first.tokens ++ rest.tokens, first.isTrait || rest.isTrait⟩
    else return ⟨[], false⟩

/-- Bounds added to a first one that was read as a type. -/
def addedBounds (g : Grammar) : Reading (List Token) := do
  return (← fueled (boundsUpTo g .onObject)).tokens

/-- One bound or, where several are allowed, any number of them. At least one is a trait. -/
def traitBounds (g : Grammar) (rules : BoundRules) (several : Bool) : Reading (List Token) := do
  let first ← anyBound g rules
  let rest ← if several then fueled (boundsUpTo g rules) else pure ⟨[], false⟩
  if first.isTrait || rest.isTrait then return first.tokens ++ rest.tokens else failure

end Grammar

end IdentityClaims.ErrorEnum
