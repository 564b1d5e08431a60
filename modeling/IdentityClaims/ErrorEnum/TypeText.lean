import IdentityClaims.ErrorEnum.Path

/-!
# Types

The forms of types: paths, calls by name, references and pointers, function pointers, tuples,
arrays, trait objects and types known only by their bounds.
-/

namespace IdentityClaims.ErrorEnum

open Reading

/-- What stands in parentheses in place of a type. -/
inductive Enclosed where
  /-- The empty tuple or one that has a comma. -/
  | tuple (tokens : List Token)
  /-- Bounds that begin with a lifetime. -/
  | bounds (tokens : List Token)
  /-- A bound that is marked as optional. -/
  | optionalBound (tokens : List Token)
  | single (type : TypeText)
  deriving DecidableEq, Repr

/-- A type in parentheses as the first of several bounds. A bound that has parentheses of its own
keeps only those. -/
def TypeText.firstBound? (type : TypeText) : Option (List Token) :=
  match type.shape with
  | .name | .path | .bound => some (bracketed .paren type.tokens)
  | .enclosedBound => some type.tokens
  | .enclosed | .other => none

namespace Grammar

/-! ## Paths -/

/-- Arguments in parentheses after the last segment of a path, once or, after an associated type,
again. -/
def calledPath (g : Grammar) (path : PathText) : Nat → Reading PathText
  | 0 => failure
  | fuel + 1 => do
    if path.bare && (← seesOpening .paren) then
      let (arguments, goesOn) ← callArguments g
      let path :=
        { path with
          tokens := path.tokens ++ arguments, plain := false, bare := false, called := true }
      if goesOn then calledPath g (← fueled (pathRest g false path)) fuel else return path
    else return path

/-- A type that is a path, a call by name, or a first bound without a keyword. -/
def pathType (g : Grammar) (plus : Bool) (parameters : List Token) : Reading TypeText := do
  let start ← anyPath g false
  let path ← fueled (calledPath g start)
  if path.qualified then return ⟨path.tokens, .other⟩
  if path.plain && (← sees .bang) then
    let bang ← symbol "!"
    return ⟨path.tokens ++ bang ++ (← anyGroup), .other⟩
  if plus && (← seesSymbol "+") then
    return ⟨parameters ++ path.tokens ++ (← addedBounds g), .other⟩
  if !parameters.isEmpty then return ⟨parameters ++ path.tokens, .bound⟩
  let simple := path.segments == 1 && !path.global && !path.called
  return ⟨path.tokens, if simple then .name else .path⟩

/-! ## Parentheses -/

def furtherBounds (g : Grammar) : Nat → Reading (List Token)
  | 0 => failure
  | fuel + 1 => do
    if ← seesSymbol "+" then
      let plus ← symbol "+"
      let next ← boundTokens g .onObject
      return plus ++ next ++ (← furtherBounds g fuel)
    else return []

def enclosed (g : Grammar) : Reading Enclosed :=
  inside .paren do
    if ← seesClosing then return .tuple []
    if ← sees .lifetime then return .bounds (← traitBounds g .onObject true)
    if ← seesSymbol "?" then return .optionalBound (← boundTokens g .onObject)
    let first ← g.type true
    if ← seesSymbol "," then
      let comma ← symbol ","
      return .tuple (first.tokens ++ comma ++ (← list seesClosing (typeTokens g true) ","))
    else return .single first

/-- A type in parentheses, a tuple, or bounds the first of which stands in parentheses. -/
def parenthesized (g : Grammar) (plus : Bool) : Reading TypeText := do
  match ← enclosed g with
  | .tuple tokens => return ⟨bracketed .paren tokens, .other⟩
  | .bounds tokens => return ⟨bracketed .paren tokens, .enclosed⟩
  | .optionalBound tokens =>
    let further ← fueled (furtherBounds g)
    let shape : TypeShape := if further.isEmpty then .enclosedBound else .other
    return ⟨bracketed .paren tokens ++ further, shape⟩
  | .single type =>
    let added := plus && (← seesSymbol "+")
    match if added then type.firstBound? else none with
    | some first => return ⟨first ++ (← fueled (furtherBounds g)), .other⟩
    | none => return ⟨bracketed .paren type.tokens, .enclosed⟩

/-! ## Function pointers -/

/-- The binary interface of a function, if it is named. -/
def abi : Reading (List Token) := do
  if ← seesWord "extern" then
    let keyword ← word "extern"
    let named ← sees .quotation
    return keyword ++ (← onlyIf named literal)
  else return []

/-- The mark of further arguments, which is the last parameter. -/
def ellipsis : Reading (List Token) := do
  let label ← if ← sees .identifier then do
      let id ← identifier
      pure (.name id :: (← symbol ":"))
    else pure []
  let dots ← symbol "..."
  return label ++ dots ++ (← optionalSymbol ",")

/-- A parameter of a function pointer. The first may be the receiver. -/
def pointerParameter (g : Grammar) (first : Bool) : Reading (List Token) := do
  let changeable := Lookahead.both (.word "mut") (.second (.word "self"))
  if first && (← sees changeable) then
    asWritten do
      let _ ← word "mut"
      let _ ← word "self"
      if ← sees .colon then
        let _ ← symbol ":"
        let _ ← g.type true
  else
    let label := Lookahead.either .name (.oneOf (if first then ["_", "self"] else ["_"]))
    let named ← sees (.both label (.second .colon))
    let label ← if named then do
        let id ← identifier
        pure (.name id :: (← symbol ":"))
      else pure []
    return label ++ (← typeTokens g true)

def pointerParameters (g : Grammar) (first : Bool) : Nat → Reading (List Token)
  | 0 => failure
  | fuel + 1 => do
    if ← seesClosing then return []
    let attributes ← g.attributes
    let dots := Lookahead.symbol "..."
    let label := Lookahead.either .name (.word "_")
    let further := Lookahead.either dots
      (.both label (.both (.second (.symbol ":")) (.third dots)))
    if ← sees further then return attributes ++ (← ellipsis)
    let parameter ← pointerParameter g first
    if ← seesClosing then return attributes ++ parameter
    let comma ← symbol ","
    return attributes ++ parameter ++ comma ++ (← pointerParameters g false fuel)

def functionPointer (g : Grammar) : Reading (List Token) := do
  let safety ← optionalWord "unsafe"
  let abi ← abi
  let keyword ← word "fn"
  let parameters ← group .paren (fueled (pointerParameters g true))
  return safety ++ abi ++ keyword ++ parameters ++ (← returned g)

/-! ## All types -/

/-- A type in brackets: a slice, or an array with its length. -/
def bracketType (g : Grammar) : Reading (List Token) :=
  group .bracket do
    let element ← typeTokens g true
    if ← seesSymbol ";" then return element ++ (← symbol ";") ++ (← value g) else return element

def pointerType (g : Grammar) : Reading (List Token) := do
  if ← seesSymbol "*" then
    let star ← symbol "*"
    let access ← if ← seesWord "const" then word "const" else word "mut"
    return star ++ access ++ (← typeTokens g false)
  else
    let ampersand ← symbol "&"
    let lifetimes ← onlyIf (← sees .lifetime) lifetime
    let access ← optionalWord "mut"
    return ampersand ++ lifetimes ++ access ++ (← typeTokens g false)

/-- A trait object with its keyword. A star in front of the bounds keeps it as it is written. -/
def traitObject (g : Grammar) (plus : Bool) : Reading (List Token) :=
  normalOrWritten do
    let keyword ← word "dyn"
    let star ← optionalSymbol "*"
    let bounds ← traitBounds g .onObject plus
    return if star.isEmpty then some (keyword ++ bounds) else none

/-- The words that a path of types may start with. -/
def startsPath : Lookahead :=
  .either .name (.oneOf ["super", "self", "Self", "crate"])

def typeText (g : Grammar) (plus : Bool) : Reading TypeText := do
  let parameters ← quantifier g
  if ← sees (.oneOf ["fn", "unsafe", "extern"]) then
    return ⟨parameters ++ (← functionPointer g), .other⟩
  if ← sees startsPath then return ← pathType g plus parameters
  if !parameters.isEmpty then failure
  if ← sees (.symbols ["::", "<"]) then return ← pathType g plus []
  if ← seesOpening .paren then return ← parenthesized g plus
  if ← seesWord "dyn" then return ⟨← traitObject g plus, .other⟩
  if ← seesOpening .bracket then return ⟨← bracketType g, .other⟩
  if ← sees (.symbols ["*", "&"]) then return ⟨← pointerType g, .other⟩
  if ← seesSymbol "!" then return ⟨← symbol "!", .other⟩
  if ← seesWord "impl" then
    let keyword ← word "impl"
    return ⟨keyword ++ (← traitBounds g .onOpaqueType plus), .other⟩
  if ← seesWord "_" then return ⟨← word "_", .other⟩
  if ← sees .lifetime then return ⟨← traitBounds g .onObject true, .other⟩
  failure

end Grammar

end IdentityClaims.ErrorEnum
