import IdentityClaims.ErrorEnum.Inspection
import IdentityClaims.Text.Pieces

/-!
# Expansion of error enums

An error enum is given the derives it lacks (`missing_derives`), a trait that puts a context on
results (`expand_ext_trait`), conversions from the sources of its variants (`expand_source_impls`)
and, if it has an internal variant, conversions from texts (`expand_internal`). The expansion is
data first; its tokens are written from that.
-/

namespace IdentityClaims.ErrorEnum

/-! ## What is generated -/

inductive Derive where
  | debug | error
  deriving DecidableEq, Repr

/-- The last segment of the path by which a derive is recognised. -/
def Derive.segment : Derive → Identifier
  | .debug => .plain "Debug"
  | .error => .plain "Error"

/-- The match arm that puts a context on a variant. -/
structure ContextArm where
  conditions : List Attribute
  variant : Identifier
  deriving DecidableEq, Repr

/-- The two implementations for the source of a variant: the conversion into the enum, and the
trait for results that fail with the source. -/
structure SourceImpl where
  conditions : List Attribute
  variant : Identifier
  field : Identifier
  type : List Token
  deriving DecidableEq, Repr

structure Expansion where
  item : Enumeration
  derives : List Derive
  arms : List ContextArm
  sources : List SourceImpl
  /-- The conditions of the conversions from texts, if there are any. -/
  conversions : Option (List Attribute)
  deriving DecidableEq, Repr

namespace VariantShape

def arm? (shape : VariantShape) : Option ContextArm :=
  if shape.hasContext then some ⟨shape.conditions, shape.name⟩ else none

def sourceImpl? (shape : VariantShape) : Option SourceImpl :=
  if shape.isInternal then none
  else shape.source.map fun (field, type) => ⟨shape.conditions, shape.name, field, type⟩

end VariantShape

namespace Enumeration

/-- The derives that no attribute of an enum names (`missing_derives`). -/
def missingDerives (enumeration : Enumeration) : List Derive :=
  let present := enumeration.attributes.flatMap Attribute.derives
  [.debug, .error].filter fun derive => derive.segment ∉ present

/-- The expansion of an enum, or the first flaw among its variants (`expand`). -/
def expand (enumeration : Enumeration) : Except Flaw Expansion := do
  let shapes ← enumeration.variants.mapM Variant.inspect
  return {
    item := enumeration
    derives := enumeration.missingDerives
    arms := shapes.filterMap VariantShape.arm?
    sources := shapes.filterMap VariantShape.sourceImpl?
    conversions := (shapes.find? VariantShape.isInternal).map VariantShape.conditions }

end Enumeration

/-- The expansion of an item. -/
def Item.expand : Item → Except Flaw Expansion
  | .enumeration e => e.expand
  | .other => .error .notAnEnum

/-! ## Its tokens -/

def words (text : String) : List String := Text.pieces ' ' text

def braced (tokens : List String) : List String := "\x7b" :: tokens ++ ["\x7d"]

def texts (tokens : List Token) : List String := tokens.map Token.text

def conditionTexts (conditions : List Attribute) : List String :=
  texts (conditions.flatMap Attribute.tokens)

def Derive.texts : Derive → List String
  | .debug => words "Debug"
  | .error => words ": : thiserror : : Error"

/-- The attribute that adds derives, if there are any to add. -/
def deriveTexts (derives : List Derive) : List String :=
  if derives.isEmpty then []
  else words "# [ derive (" ++ [","].intercalate (derives.map Derive.texts) ++ words ") ]"

def cowTexts : List String := words "std : : borrow : : Cow < 'static , str >"

/-- The head of the function that puts a context on a result, up to its return type. -/
def contextHead : List String :=
  words "fn context ( self , context : impl Into <" ++ cowTexts ++ words "> ) - >"

namespace ContextArm

def texts (enum : String) (arm : ContextArm) : List String :=
  conditionTexts arm.conditions ++ [enum, ":", ":", arm.variant.spelling] ++
    braced (words "context : c , . .") ++ words "= > * c = Some ( context . into ( ) ) ,"

end ContextArm

/-- The trait that puts contexts on results, and its implementation for results of the enum
(`expand_ext_trait`). -/
def traitTexts (enum ext : String) (arms : List ContextArm) : List String :=
  words "pub trait" ++ [ext] ++ words "< T >" ++
    braced (contextHead ++ words "Result < T ," ++ [enum] ++ words "> ;") ++
  words "# [ automatically_derived ] impl < T >" ++ [ext] ++ words "< T > for Result < T ," ++
    [enum, ">"] ++
    braced (words "# [ inline ]" ++ contextHead ++ words "Self" ++
      braced (words "self . map_err ( | mut e |" ++
        braced (words "match & mut e" ++
          braced (arms.flatMap (ContextArm.texts enum) ++ words "_ = >" ++ braced []) ++ ["e"]) ++
        [")"]))

namespace SourceImpl

def texts (enum ext : String) (impl : SourceImpl) : List String :=
  let conditions := conditionTexts impl.conditions
  let type := ErrorEnum.texts impl.type
  let field := impl.field.spelling
  let variant := impl.variant.spelling
  let result := words "std : : result : : Result < T ,"
  conditions ++ words "# [ automatically_derived ] impl From <" ++ type ++ words "> for" ++
    [enum] ++ braced (words "# [ inline ] fn from (" ++ [field, ":"] ++ type ++
      words ") - > Self" ++
      braced (words "Self : :" ++ [variant] ++ braced ([field] ++ words ", context : None"))) ++
  conditions ++ words "impl < T >" ++ [ext] ++ words "< T > for" ++ result ++ type ++ [">"] ++
    braced (words "# [ inline ]" ++ contextHead ++ result ++ [enum, ">"] ++
      braced (words "self . map_err ( |" ++ [field, "|", enum, ":", ":", variant] ++
        braced ([field] ++ words ", context : Some ( context . into ( ) )") ++ [")"]))

end SourceImpl

/-- A conversion from a kind of text into the internal variant. -/
def textImplTexts (enum : String) (conditions : List Attribute) (type : List String)
    (form : String) : List String :=
  conditionTexts conditions ++ words "impl From <" ++ type ++ words "> for" ++ [enum] ++
    braced (words "# [ inline ] fn from ( s :" ++ type ++ words ") - > Self" ++
      braced (words "Self : : Internal" ++
        braced (words "message : std : : borrow : : Cow : :" ++ [form] ++
          words "( s ) , context : None")))

def textImplsTexts (enum : String) (conditions : List Attribute) : List String :=
  textImplTexts enum conditions (words "& 'static str") "Borrowed" ++
    textImplTexts enum conditions (words "String") "Owned"

/-- The function `format_context` that messages write contexts by. -/
def formatContextTexts : List String :=
  words "# [ allow ( dead_code ) ] fn format_context ( context : & Option <" ++ cowTexts ++
    words "> ) - >" ++ cowTexts ++
    braced (words "context . as_ref ( ) . map_or ( std : : borrow : : Cow : : Borrowed (" ++
      ["\"\""] ++ words ") , | c | std : : borrow : : Cow : : Owned ( format ! (" ++
      ["\" (\x7bc\x7d)\""] ++ words ") ) )")

/-- The tokens of an expansion. -/
def Expansion.tokens (expansion : Expansion) : List String :=
  let enum := expansion.item.name.spelling
  let ext := expansion.item.name.text ++ "Ext"
  words "# [ allow ( non_shorthand_field_patterns ) ]" ++ deriveTexts expansion.derives ++
    texts expansion.item.tokens ++ traitTexts enum ext expansion.arms ++
    expansion.sources.flatMap (SourceImpl.texts enum ext) ++
    (expansion.conversions.map (textImplsTexts enum)).getD [] ++ formatContextTexts

def quotedText (text : String) : String := Text.literal text.toList

def Flaw.tokens (flaw : Flaw) : List String :=
  match flaw with
  | .notAnEnum => words "compile_error ! (" ++ [quotedText flaw.message] ++ words ") ;"
  | _ => words ": : core : : compile_error !" ++ braced [quotedText flaw.message]

def Item.expandedTokens (item : Item) : List String :=
  match item.expand with
  | .ok expansion => expansion.tokens
  | .error flaw => flaw.tokens

end IdentityClaims.ErrorEnum
