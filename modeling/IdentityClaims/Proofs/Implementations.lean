import IdentityClaims.Proofs.Admission
import Mathlib.Data.List.Basic

/-!
# The generated implementations

Each implementation that is generated for the variants of an enum takes a value of some type and
builds a literal of a variant from it: the conversion of a source and the trait for results that
fail with it (`expand_source_impls`), and the conversions from texts into the internal variant
(`expand_internal`). Here they are data, with the literals taken apart into members, together with
the variants that they are generated for.
-/

namespace IdentityClaims.ErrorEnum

/-! ## Literals and implementations -/

/-- A member of a literal, with the tokens of its value. Without any it takes the value of the
variable of its own name. -/
structure LiteralMember where
  name : Identifier
  value : Option (List String)
  deriving DecidableEq, Repr

def LiteralMember.texts (member : LiteralMember) : List String :=
  match member.value with
  | none => [member.name.spelling]
  | some value => member.name.spelling :: ":" :: value

/-- A literal of a variant. -/
structure VariantLiteral where
  variant : Identifier
  members : List LiteralMember
  deriving DecidableEq, Repr

namespace VariantLiteral

def texts (literal : VariantLiteral) : List String :=
  [literal.variant.spelling, "\x7b"] ++
    [","].intercalate (literal.members.map LiteralMember.texts) ++ ["\x7d"]

/-- The names of the members. The mark of a raw identifier is not part of the name. -/
def names (literal : VariantLiteral) : List String :=
  literal.members.map fun member => member.name.text

theorem texts_pair (variant : Identifier) (first second : LiteralMember) :
    texts ⟨variant, [first, second]⟩ =
      [variant.spelling, "\x7b"] ++ first.texts ++ "," :: second.texts ++ ["\x7d"] := by
  simp [texts, List.intercalate]

end VariantLiteral

/-- The type of contexts. -/
def cowWords : List String := words "std : : borrow : : Cow < 'static , str >"

/-- The function that puts a context on a result, up to its return type. -/
def contextWords : List String :=
  words "fn context ( self , context : impl Into <" ++ cowWords ++ words "> ) - >"

theorem contextHead_eq : contextHead = contextWords := rfl

inductive Purpose where
  /-- Converts a value into the enum. -/
  | conversion
  /-- Puts a context on results that fail with a value. -/
  | context
  deriving DecidableEq, Repr

/-- An implementation that builds a variant from a value. -/
structure Implementation where
  conditions : List Attribute
  /-- Whether it is marked as derived. -/
  marked : Bool
  purpose : Purpose
  /-- The type of the value. -/
  type : List String
  /-- The variable that holds the value. -/
  parameter : String
  literal : VariantLiteral
  deriving DecidableEq, Repr

namespace Implementation

def isConversion (impl : Implementation) : Bool :=
  impl.purpose == .conversion

/-- The tokens behind the conditions. -/
def bodyTexts (enum ext : String) (impl : Implementation) : List String :=
  (if impl.marked then words "# [ automatically_derived ]" else []) ++
    match impl.purpose with
    | .conversion =>
      words "impl From <" ++ impl.type ++ words "> for" ++ [enum, "\x7b"] ++
        words "# [ inline ] fn from (" ++ [impl.parameter, ":"] ++ impl.type ++
        words ") - > Self" ++ ["\x7b"] ++ words "Self : :" ++ impl.literal.texts ++
        ["\x7d", "\x7d"]
    | .context =>
      words "impl < T >" ++ [ext] ++ words "< T > for" ++
        words "std : : result : : Result < T ," ++ impl.type ++ [">", "\x7b"] ++
        words "# [ inline ]" ++ contextWords ++ words "std : : result : : Result < T ," ++
        [enum, ">", "\x7b"] ++ words "self . map_err ( |" ++
        [impl.parameter, "|", enum, ":", ":"] ++ impl.literal.texts ++ [")", "\x7d", "\x7d"]

def texts (enum ext : String) (impl : Implementation) : List String :=
  ErrorEnum.texts (impl.conditions.flatMap Attribute.tokens) ++ impl.bodyTexts enum ext

end Implementation

/-- The member that holds the context. -/
def contextMember (value : String) : LiteralMember :=
  ⟨.plain "context", some (words value)⟩

namespace SourceImpl

/-- The conversion of a source. -/
def conversion (impl : SourceImpl) : Implementation where
  conditions := impl.conditions
  marked := true
  purpose := .conversion
  type := ErrorEnum.texts impl.type
  parameter := impl.field.spelling
  literal := ⟨impl.variant, [⟨impl.field, none⟩, contextMember "None"]⟩

/-- The trait for results that fail with a source. -/
def contextual (impl : SourceImpl) : Implementation where
  conditions := impl.conditions
  marked := false
  purpose := .context
  type := ErrorEnum.texts impl.type
  parameter := impl.field.spelling
  literal := ⟨impl.variant, [⟨impl.field, none⟩, contextMember "Some ( context . into ( ) )"]⟩

def implementations (impl : SourceImpl) : List Implementation :=
  [impl.conversion, impl.contextual]

theorem texts_eq (enum ext : String) (impl : SourceImpl) :
    impl.texts enum ext = impl.implementations.flatMap (Implementation.texts enum ext) := by
  have head : words "# [ automatically_derived ] impl From <" =
      words "# [ automatically_derived ]" ++ words "impl From <" := by decide +kernel
  have no_context : [impl.field.spelling] ++ words ", context : None" =
      LiteralMember.texts ⟨impl.field, none⟩ ++ "," :: (contextMember "None").texts := by
    have separated : words ", context : None" = "," :: (contextMember "None").texts := by
      decide +kernel
    rw [separated]
    rfl
  have new_context : [impl.field.spelling] ++ words ", context : Some ( context . into ( ) )" =
      LiteralMember.texts ⟨impl.field, none⟩ ++
        "," :: (contextMember "Some ( context . into ( ) )").texts := by
    have separated : words ", context : Some ( context . into ( ) )" =
        "," :: (contextMember "Some ( context . into ( ) )").texts := by
      decide +kernel
    rw [separated]
    rfl
  have both : impl.implementations.flatMap (Implementation.texts enum ext) =
      impl.conversion.texts enum ext ++ impl.contextual.texts enum ext := by
    simp [implementations]
  rw [both]
  simp only [texts, conversion, contextual, Implementation.texts, Implementation.bodyTexts,
    VariantLiteral.texts_pair, conditionTexts, head, no_context, new_context, contextHead_eq,
    if_true, Bool.false_eq_true, if_false]
  simp only [braced, List.append_assoc, List.cons_append, List.nil_append]

end SourceImpl

/-- A conversion from a kind of text into the internal variant. -/
def textConversion (conditions : List Attribute) (type : List String) (form : String) :
    Implementation where
  conditions := conditions
  marked := false
  purpose := .conversion
  type := type
  parameter := "s"
  literal := ⟨.plain "Internal",
    [⟨.plain "message", some (words "std : : borrow : : Cow : :" ++ [form] ++ words "( s )")⟩,
      contextMember "None"]⟩

/-- The type of borrowed texts. -/
def borrowedType : List String := words "& 'static str"

/-- The type of owned texts. -/
def ownedType : List String := words "String"

/-- The conversions from borrowed and from owned texts. -/
def textConversions (conditions : List Attribute) : List Implementation :=
  [textConversion conditions borrowedType "Borrowed", textConversion conditions ownedType "Owned"]

theorem texts_textConversion (enum ext : String) (conditions : List Attribute)
    (type : List String) (form : String) :
    (textConversion conditions type form).texts enum ext =
      textImplTexts enum conditions type form := by
  have head : words "Self : : Internal" = words "Self : :" ++ ["Internal"] := by decide +kernel
  have start : words "message : std : : borrow : : Cow : :" =
      "message" :: ":" :: words "std : : borrow : : Cow : :" := by decide +kernel
  have ending : words "( s ) , context : None" =
      words "( s )" ++ "," :: (contextMember "None").texts := by decide +kernel
  have parameter : words "# [ inline ] fn from ( s :" =
      words "# [ inline ] fn from (" ++ ["s", ":"] := by decide +kernel
  simp only [textImplTexts, textConversion, Implementation.texts, Implementation.bodyTexts,
    VariantLiteral.texts_pair, conditionTexts, head, start, ending, parameter, Bool.false_eq_true,
    if_false]
  simp only [LiteralMember.texts, Identifier.spelling, Identifier.plain, Bool.false_eq_true,
    if_false, braced, List.append_assoc, List.cons_append, List.nil_append]

theorem texts_textConversions (enum ext : String) (conditions : List Attribute) :
    (textConversions conditions).flatMap (Implementation.texts enum ext) =
      textImplsTexts enum conditions := by
  simp [textConversions, texts_textConversion, textImplsTexts, borrowedType, ownedType]

/-! ## The trait and the function for contexts -/

/-- The tokens of an arm behind its conditions. -/
def ContextArm.bodyTexts (enum : String) (arm : ContextArm) : List String :=
  [enum, ":", ":", arm.variant.spelling, "\x7b"] ++ words "context : c , . ." ++ ["\x7d"] ++
    words "= > * c = Some ( context . into ( ) ) ,"

/-- The trait that puts contexts on results, with the arms of its match. -/
def traitWords (enum ext : String) (arms : List String) : List String :=
  words "pub trait" ++ [ext] ++ words "< T >" ++ ["\x7b"] ++ contextWords ++
    words "Result < T ," ++ [enum] ++ words "> ;" ++ ["\x7d"] ++
    words "# [ automatically_derived ] impl < T >" ++ [ext] ++ words "< T > for Result < T ," ++
    [enum, ">", "\x7b"] ++ words "# [ inline ]" ++ contextWords ++ words "Self" ++ ["\x7b"] ++
    words "self . map_err ( | mut e |" ++ ["\x7b"] ++ words "match & mut e" ++ ["\x7b"] ++ arms ++
    words "_ = >" ++ ["\x7b", "\x7d", "\x7d", "e", "\x7d", ")", "\x7d", "\x7d"]

/-- The text that stands for an absent context. -/
def absentLiteral : String := "\"\""

/-- The format of a context. -/
def presentLiteral : String := "\" (\x7bc\x7d)\""

/-- The function `format_context` that messages write contexts by. -/
def formatContextWords : List String :=
  words "# [ allow ( dead_code ) ] fn format_context ( context : & Option <" ++ cowWords ++
    words "> ) - >" ++ cowWords ++ ["\x7b"] ++
    words "context . as_ref ( ) . map_or ( std : : borrow : : Cow : : Borrowed (" ++
    [absentLiteral] ++ words ") , | c | std : : borrow : : Cow : : Owned ( format ! (" ++
    [presentLiteral] ++ words ") ) )" ++ ["\x7d"]

theorem formatContextTexts_eq : formatContextTexts = formatContextWords := by
  simp only [formatContextTexts, formatContextWords, braced, List.append_assoc, List.cons_append,
    List.nil_append]
  rfl

theorem texts_contextArm (enum : String) (arm : ContextArm) :
    arm.texts enum = texts (arm.conditions.flatMap Attribute.tokens) ++ arm.bodyTexts enum := by
  simp only [ContextArm.texts, ContextArm.bodyTexts, conditionTexts, braced, List.append_assoc,
    List.cons_append, List.nil_append]

theorem traitTexts_eq (enum ext : String) (arms : List ContextArm) :
    traitTexts enum ext arms = traitWords enum ext
      (arms.flatMap fun arm =>
        texts (arm.conditions.flatMap Attribute.tokens) ++ arm.bodyTexts enum) := by
  have each : arms.flatMap (ContextArm.texts enum) = arms.flatMap fun arm =>
      texts (arm.conditions.flatMap Attribute.tokens) ++ arm.bodyTexts enum :=
    List.flatMap_congr fun arm _ => texts_contextArm enum arm
  unfold traitTexts traitWords
  rw [each, contextHead_eq]
  simp only [braced, List.append_assoc, List.cons_append, List.nil_append]

/-! ## The implementations of an expansion -/

namespace Expansion

/-- All implementations that build variants, in their order. -/
def implementations (expansion : Expansion) : List Implementation :=
  expansion.sources.flatMap SourceImpl.implementations ++
    (expansion.conversions.map textConversions).getD []

/-- The name of the trait that puts contexts on results. -/
def extension (expansion : Expansion) : String := expansion.item.name.text ++ "Ext"

/-- The enum with its derives. -/
def enumTexts (expansion : Expansion) : List String :=
  words "# [ allow ( non_shorthand_field_patterns ) ]" ++ deriveTexts expansion.derives ++
    ErrorEnum.texts expansion.item.tokens

/-- What stands in front of the implementations: the enum, and the trait with its arms. -/
def leadTexts (expansion : Expansion) : List String :=
  expansion.enumTexts ++ traitWords expansion.item.name.spelling expansion.extension
    (expansion.arms.flatMap fun arm =>
      ErrorEnum.texts (arm.conditions.flatMap Attribute.tokens) ++
        arm.bodyTexts expansion.item.name.spelling)

/-- Behind the enum and its trait an expansion consists of its implementations and of the function
that messages write contexts by. -/
theorem tokens_eq (expansion : Expansion) :
    expansion.tokens = expansion.leadTexts ++
      expansion.implementations.flatMap
        (Implementation.texts expansion.item.name.spelling expansion.extension) ++
      formatContextWords := by
  have sources (enum ext : String) : expansion.sources.flatMap (SourceImpl.texts enum ext) =
      (expansion.sources.flatMap SourceImpl.implementations).flatMap
        (Implementation.texts enum ext) := by
    rw [List.flatMap_assoc]
    exact List.flatMap_congr fun impl _ => impl.texts_eq enum ext
  have conversions (enum ext : String) :
      (expansion.conversions.map (textImplsTexts enum)).getD [] =
        ((expansion.conversions.map textConversions).getD []).flatMap
          (Implementation.texts enum ext) := by
    cases expansion.conversions with
    | none => rfl
    | some conditions => exact (texts_textConversions enum ext conditions).symm
  rw [tokens, implementations, List.flatMap_append, sources, conversions _ expansion.extension,
    leadTexts, enumTexts, extension, traitTexts_eq, formatContextTexts_eq]
  simp only [List.append_assoc]

end Expansion

/-- The implementations for the source of a variant, if they are generated. -/
def Variant.sourceImplementations (variant : Variant) : List Implementation :=
  variant.sourceImpl?.toList.flatMap SourceImpl.implementations

namespace Enumeration

/-- All implementations that build variants, each with the variant that it is generated for. -/
def built (enumeration : Enumeration) : List (Variant × Implementation) :=
  (enumeration.variants.flatMap fun variant => variant.sourceImplementations.map (variant, ·)) ++
    enumeration.internal?.toList.flatMap fun variant =>
      (textConversions variant.conditions).map (variant, ·)

theorem implementations_expansion (enumeration : Enumeration) :
    enumeration.expansion.implementations = enumeration.built.map Prod.snd := by
  have sources : enumeration.expansion.sources.flatMap SourceImpl.implementations =
      enumeration.variants.flatMap Variant.sourceImplementations := by
    change (enumeration.variants.filterMap Variant.sourceImpl?).flatMap _ = _
    rw [List.filterMap_eq_flatMap_toList, List.flatMap_assoc]
    rfl
  have conversions : (enumeration.expansion.conversions.map textConversions).getD [] =
      enumeration.internal?.toList.flatMap fun variant => textConversions variant.conditions := by
    change ((enumeration.internal?.map Variant.conditions).map textConversions).getD [] = _
    cases enumeration.internal? with
    | none => rfl
    | some variant => simp
  rw [Expansion.implementations, sources, conversions, built, List.map_append, List.map_flatMap,
    List.map_flatMap]
  simp only [List.map_map, Function.comp_def, List.map_id']

end Enumeration

end IdentityClaims.ErrorEnum
