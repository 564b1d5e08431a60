import IdentityClaims.ErrorEnum.Parsing
import IdentityClaims.Text.Blank

/-!
# Inspection of variants

What the expansion needs to know of a variant (`inspect_variant`): whether it has a context, which
field holds its source, and under which conditions it exists. A variant without named fields, with
a context of another type, or with a source but no context is refused.
-/

namespace IdentityClaims.ErrorEnum

/-- Why an item is not expanded. -/
inductive Flaw where
  | notAnEnum
  | unnamedFields
  | contextType
  | sourceWithoutContext
  deriving DecidableEq, Repr

def Flaw.message : Flaw → String
  | .notAnEnum => "claimmap_error can only be applied to enums"
  | .unnamedFields => "claimmap_error requires named fields for source/context handling"
  | .contextType => "context field must be Option<Cow<'static, str>>"
  | .sourceWithoutContext =>
    "claimmap_error requires `context: Option<Cow<'static, str>>` for variants with a source"

/-! ## The type of a context -/

/-- The tokens of a type run together, without white space. -/
def typeSpelling (type : List Token) : List Char :=
  (type.flatMap fun token => token.text.toList).filter fun c => !Text.isWhitespace c

def withoutEnd? (ending cs : List Char) : Option (List Char) :=
  if ending.isSuffixOf cs then some (cs.take (cs.length - ending.length)) else none

/-- The characters before and after the first angle bracket. -/
def splitAtAngle? : List Char → Option (List Char × List Char)
  | [] => none
  | '<' :: rest => some ([], rest)
  | c :: rest => (splitAtAngle? rest).map fun (before, after) => (c :: before, after)

/-- The characters in front of the first path separator. -/
def upToSeparator : List Char → List Char
  | ':' :: ':' :: _ => []
  | c :: rest => c :: upToSeparator rest
  | [] => []

def lastComponent (cs : List Char) : List Char :=
  (upToSeparator cs.reverse).reverse

/-- Whether a type (`is_context_type`) reads as an optional text of static or owned characters, with
any path in front of either name. The check works on the spelling of the type. -/
def isContextType (type : List Token) : Bool :=
  match (withoutEnd? "<'static,str>>".toList (typeSpelling type)).bind splitAtAngle? with
  | some (outer, inner) =>
    lastComponent outer == "Option".toList && lastComponent inner == "Cow".toList
  | none => false

/-! ## Variants -/

/-- Whether a field is the context by its name (`context_field`). -/
def Field.isContext (field : Field) : Bool :=
  field.name == .plain "context"

/-- Whether a field is a source, by its name or by an attribute (`source_field`). -/
def Field.isSource (field : Field) : Bool :=
  field.name == .plain "source" ||
    field.attributes.any fun attr => attr.isWord "source" || attr.isWord "from"

/-- What the expansion needs to know of a variant. -/
structure VariantShape where
  name : Identifier
  hasContext : Bool
  /-- The first source field, with its type. -/
  source : Option (Identifier × List Token)
  /-- The conditions under which the variant exists. -/
  conditions : List Attribute
  deriving DecidableEq, Repr

namespace VariantShape

/-- Whether the variant takes errors that are nothing but a text. -/
def isInternal (shape : VariantShape) : Bool :=
  shape.name == .plain "Internal"

end VariantShape

namespace Variant

def conditions (variant : Variant) : List Attribute :=
  variant.attributes.filter (·.isWord "cfg")

/-- The shape of a variant, or the first flaw that refuses it (`inspect_variant`). -/
def inspect (variant : Variant) : Except Flaw VariantShape :=
  match variant.fields with
  | .named fields _ =>
    let context := fields.find? Field.isContext
    let source := fields.find? Field.isSource
    if context.any fun field => !isContextType field.type then .error .contextType
    else if source.isSome && context.isNone then .error .sourceWithoutContext
    else .ok ⟨variant.name, context.isSome, source.map fun field => (field.name, field.type),
      variant.conditions⟩
  | _ => .error .unnamedFields

end Variant

end IdentityClaims.ErrorEnum
