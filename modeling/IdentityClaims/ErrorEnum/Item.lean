import IdentityClaims.ErrorEnum.Attribute
import IdentityClaims.ErrorEnum.Generics

/-!
# Structs, enums and unions

Of an enum everything is kept that its expansion asks for; of the others only their tokens. The
tokens are those of the source, apart from the normal form of types, generics and expressions.
-/

namespace IdentityClaims.ErrorEnum

open Reading

structure Field where
  attributes : List Attribute
  visibility : List Token
  name : Identifier
  type : List Token
  deriving DecidableEq, Repr

inductive Fields where
  /-- Named fields, and whether a comma follows the last one. -/
  | named (fields : List Field) (comma : Bool)
  | unnamed (tokens : List Token)
  | none
  deriving DecidableEq, Repr

structure Variant where
  attributes : List Attribute
  name : Identifier
  fields : Fields
  /-- The discriminant with its equals sign, if there is one. -/
  discriminant : List Token
  deriving DecidableEq, Repr

structure Enumeration where
  attributes : List Attribute
  visibility : List Token
  name : Identifier
  generics : List Token
  whereClause : List Token
  variants : List Variant
  /-- Whether a comma follows the last variant. -/
  comma : Bool
  deriving DecidableEq, Repr

/-! ## Tokens -/

/-- Parts with commas between them, and one at the end if asked for. -/
def commaSeparated (comma : Bool) : List (List Token) → List Token
  | [] => []
  | [part] => if comma then part ++ [.punct ',' false] else part
  | part :: rest => part ++ .punct ',' false :: commaSeparated comma rest

def Field.tokens (field : Field) : List Token :=
  field.attributes.flatMap Attribute.tokens ++ field.visibility ++ .name field.name ::
    .punct ':' false :: field.type

def Fields.tokens : Fields → List Token
  | .named fields comma => bracketed .brace (commaSeparated comma (fields.map Field.tokens))
  | .unnamed tokens => tokens
  | .none => []

def Variant.tokens (variant : Variant) : List Token :=
  variant.attributes.flatMap Attribute.tokens ++ .name variant.name :: variant.fields.tokens ++
    variant.discriminant

def Enumeration.tokens (enumeration : Enumeration) : List Token :=
  enumeration.attributes.flatMap Attribute.tokens ++ enumeration.visibility ++ .word "enum" ::
    .name enumeration.name :: enumeration.generics ++ enumeration.whereClause ++
    bracketed .brace (commaSeparated enumeration.comma (enumeration.variants.map Variant.tokens))

/-! ## Reading -/

namespace Grammar

/-- A visibility. Parentheses that hold anything but a restriction belong to what follows. -/
def visibility : Reading (List Token) := do
  if ← seesWord "pub" then
    let keyword ← word "pub"
    let restricted ← sees fun tokens =>
      match tokens with
      | .opening .paren :: inner =>
        Lookahead.both (.oneOf ["crate", "self", "super"]) (.second .closing) inner ||
          Lookahead.word "in" inner
      | _ => false
    if restricted then
      return keyword ++ (← group .paren do
        let within ← optionalWord "in"
        return within ++ (← plainPath).tokens)
    else return keyword
  else return []

/-- Whether a separator was read after the last of some items. -/
def endsInSeparator {α : Type} (items : List (α × List Token)) : Bool :=
  match items.getLast? with
  | some (_, between) => !between.isEmpty
  | none => false

/-- Whether a structure without a name comes next that stands for a type. -/
def startsAnonymous : Lookahead :=
  .either (.word "struct") (.both (.word "union") (.second (.opening .brace)))

/-- A field with a name. A structure in place of its type is given what remains of the fuel. -/
def namedField (g : Grammar) : Nat → Reading Field
  | 0 => failure
  | fuel + 1 => do
    let attributes ← leadingAttributes g
    let visibility ← visibility
    let unnamed ← seesWord "_"
    let id ← if unnamed then identifier else name
    let _ ← symbol ":"
    let type ← if unnamed && (← sees startsAnonymous) then asWritten do
        let _ ← any
        inside .brace (items seesClosing (namedField g fuel) ",")
      else typeTokens g true
    return ⟨attributes, visibility, id, type⟩

def unnamedField (g : Grammar) : Reading (List Token) := do
  let attributes ← g.attributes
  let visibility ← visibility
  return attributes ++ visibility ++ (← typeTokens g true)

def namedFields (g : Grammar) : Reading Fields := do
  let fields ← inside .brace (items seesClosing (fueled (namedField g)) ",")
  return .named (fields.map Prod.fst) (endsInSeparator fields)

def unnamedFields (g : Grammar) : Reading Fields := do
  return .unnamed (← group .paren (list seesClosing (unnamedField g) ","))

/-- A variant. A visibility in front of it is dropped. -/
def variant (g : Grammar) : Reading Variant := do
  let attributes ← leadingAttributes g
  let _ ← visibility
  let id ← name
  let fields ← if ← seesOpening .brace then namedFields g
    else if ← seesOpening .paren then unnamedFields g
    else pure .none
  let discriminant ← if ← seesSymbol "=" then do
      let equals ← symbol "="
      pure (equals ++ (← value g))
    else pure []
  return ⟨attributes, id, fields, discriminant⟩

def enumeration (g : Grammar) (attributes : List Attribute) (visibility : List Token) :
    Reading Enumeration := do
  let _ ← word "enum"
  let id ← name
  let generics ← generics g
  let whereClause ← whereClause g
  let variants ← inside .brace (items seesClosing (variant g) ",")
  return ⟨attributes, visibility, id, generics, whereClause, variants.map Prod.fst,
    endsInSeparator variants⟩

/-- A struct: its fields stand in braces, or in parentheses with a semicolon, or there is only a
semicolon. -/
def structTokens (g : Grammar) : Reading (List Token) := do
  let keyword ← word "struct"
  let id ← name
  let parameters ← generics g
  let start := keyword ++ .name id :: parameters
  if ← seesOpening .paren then
    let fields ← unnamedFields g
    let conditions ← whereClause g
    return start ++ fields.tokens ++ conditions ++ (← symbol ";")
  let conditions ← whereClause g
  if ← seesOpening .brace then return start ++ conditions ++ (← namedFields g).tokens
  return start ++ conditions ++ (← symbol ";")

def unionTokens (g : Grammar) : Reading (List Token) := do
  let keyword ← word "union"
  let id ← name
  let parameters ← generics g
  let conditions ← whereClause g
  return keyword ++ .name id :: parameters ++ conditions ++ (← namedFields g).tokens

end Grammar

end IdentityClaims.ErrorEnum
