import IdentityClaims.ErrorEnum.Path

/-!
# Attributes

An attribute is a path with nothing, with tokens in brackets or with a value after it. The lists
of derived traits are read item by item, and reading ends at the first thing that is no item.
-/

namespace IdentityClaims.ErrorEnum

open Reading

structure AttributePath where
  /-- The separator in front of the path, if there is one. -/
  separator : List Token
  segments : List Identifier
  deriving DecidableEq, Repr

inductive AttributeArgument where
  | none
  | list (delimiter : Delimiter) (content : List Token)
  | value (tokens : List Token)
  deriving DecidableEq, Repr

structure Attribute where
  path : AttributePath
  argument : AttributeArgument
  deriving DecidableEq, Repr

namespace AttributePath

def segmentTokens : List Identifier → List Token
  | [] => []
  | [id] => [.name id]
  | id :: rest => .name id :: symbolTokens [':', ':'] ++ segmentTokens rest

def tokens (path : AttributePath) : List Token :=
  path.separator ++ segmentTokens path.segments

end AttributePath

namespace Attribute

def isWord (attr : Attribute) (text : String) : Bool :=
  attr.path.separator.isEmpty && attr.path.segments == [.plain text]

def inBrackets (attr : Attribute) : List Token :=
  let argument := match attr.argument with
    | .none => []
    | .list delimiter content => bracketed delimiter content
    | .value value => .punct '=' false :: value
  bracketed .bracket (attr.path.tokens ++ argument)

/-- The attribute in front of what it is about. -/
def tokens (attr : Attribute) : List Token :=
  .punct '#' false :: attr.inBrackets

def innerTokens (attr : Attribute) : List Token :=
  .punct '#' false :: .punct '!' false :: attr.inBrackets

/-! ## Derived traits -/

/-- The segments of a path after its first, the last of which is kept. -/
def lastSegment? : Identifier → List Token → Option (Identifier × List Token)
  | _, .punct ':' true :: .punct ':' _ :: .name id :: rest => lastSegment? id rest
  | _, .punct ':' true :: .punct ':' _ :: _ => none
  | id, rest => some (id, rest)

/-- The last segment of a path of any words, and what follows the path. -/
def derivedPath? : List Token → Option (Identifier × List Token)
  | .punct ':' true :: .punct ':' _ :: .name id :: rest => lastSegment? id rest
  | .name id :: rest => lastSegment? id rest
  | _ => none

/-- The last segments of the paths in a list, as `missing_derives` reads it: up to the first thing
that is no path with a comma or the end behind it. A path in front of that still counts. -/
def derivedNames : Nat → List Token → List Identifier
  | 0, _ => []
  | fuel + 1, tokens =>
    match derivedPath? tokens with
    | none => []
    | some (id, .punct ',' _ :: rest) => id :: derivedNames fuel rest
    | some (id, _) => [id]

/-- The traits that an attribute derives, by the last segments of their paths. -/
def derives (attr : Attribute) : List Identifier :=
  match attr.argument with
  | .list _ content => if attr.isWord "derive" then derivedNames content.length content else []
  | _ => []

end Attribute

namespace Grammar

def plainSegments : Nat → Reading (List Identifier)
  | 0 => failure
  | fuel + 1 => do
    if ← sees (.either .name (.oneOf ["super", "self", "Self", "crate"])) then
      let first ← identifier
      if ← seesSymbol "::" then
        let _ ← symbol "::"
        return first :: (← plainSegments fuel)
      else return [first]
    else failure

def plainPath : Reading AttributePath := do
  let separator ← optionalSymbol "::"
  return ⟨separator, ← fueled plainSegments⟩

/-- The value of an attribute. An attribute cannot begin it. -/
def attributeValue (g : Grammar) : Reading (List Token) := do
  let signed := Lookahead.both (.symbol "-") (.third .closing)
  if ← sees (.both .literal (.either (.second .closing) signed)) then literal
  else if ← sees (.both (.symbol "#") (.second (.opening .bracket))) then failure
  else value g

def attributeArgument (g : Grammar) : Reading AttributeArgument := do
  if ← seesSymbol "=" then
    let _ ← symbol "="
    return .value (← attributeValue g)
  match ← get with
  | .opening delimiter :: _ => return .list delimiter (← inside delimiter verbatim)
  | _ => return .none

def bracketedAttribute (g : Grammar) : Reading Attribute :=
  inside .bracket do
    let path ← if ← seesWord "unsafe" then do pure ⟨[], [← identifier]⟩ else plainPath
    return ⟨path, ← attributeArgument g⟩

def attributesUpTo (g : Grammar) : Nat → Reading (List Attribute)
  | 0 => failure
  | fuel + 1 => do
    if ← seesSymbol "#" then
      let _ ← symbol "#"
      let first ← bracketedAttribute g
      return first :: (← attributesUpTo g fuel)
    else return []

def leadingAttributes (g : Grammar) : Reading (List Attribute) := fueled (attributesUpTo g)

def attributeTokens (g : Grammar) : Reading (List Token) := do
  return (← leadingAttributes g).flatMap Attribute.tokens

/-- The attributes at the beginning of a body, as tokens. -/
def innerAttributesUpTo (g : Grammar) : Nat → Reading (List Token)
  | 0 => failure
  | fuel + 1 => do
    if ← sees (.both (.symbol "#") (.second (.symbol "!"))) then
      let _ ← symbol "#"
      let _ ← symbol "!"
      let first ← bracketedAttribute g
      return first.innerTokens ++ (← innerAttributesUpTo g fuel)
    else return []

def innerAttributeTokens (g : Grammar) : Reading (List Token) := fueled (innerAttributesUpTo g)

end Grammar

end IdentityClaims.ErrorEnum
