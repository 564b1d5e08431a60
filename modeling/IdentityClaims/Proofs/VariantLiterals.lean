import IdentityClaims.Proofs.Implementations

/-!
# Literals that fit their variants

The literal for a source has the source and the context as its members, and the one for a text a
message and the context, whatever fields the variant declares. So the implementations of an
expansion are well formed exactly when each variant with a source has no third field and the
internal variant has just those two, and they are for different types exactly when the sources
are and none of them is a text beside an internal variant. None of this is checked.
-/

namespace IdentityClaims.ErrorEnum

namespace Variant

/-- The names of the fields of a variant. -/
def fieldNames (variant : Variant) : List String :=
  variant.namedFields.map fun field => field.name.text

/-- The source that is converted into a variant: its first source field, unless it takes texts. -/
def convertedSource? (variant : Variant) : Option Field :=
  if variant.isInternal then none else variant.namedFields.find? Field.isSource

/-- A source that is converted stands beside the context alone. -/
def PairsSource (variant : Variant) : Prop :=
  ∀ source, variant.convertedSource? = some source →
    source.name.text ≠ "context" ∧
      ∀ name ∈ variant.fieldNames, name = source.name.text ∨ name = "context"

/-- The fields are a message and a context. -/
def HoldsMessage (variant : Variant) : Prop :=
  ∀ name, name ∈ variant.fieldNames ↔ name = "message" ∨ name = "context"

end Variant

/-- A literal fits a variant if it names the variant, and each of its fields once and nothing
else. -/
structure VariantLiteral.Fits (literal : VariantLiteral) (variant : Variant) : Prop where
  sameVariant : literal.variant = variant.name
  once : literal.names.Nodup
  fields : ∀ name, name ∈ literal.names ↔ name ∈ variant.fieldNames

/-- The types that sources are converted from, as they are written. -/
def Enumeration.sourceTypes (enumeration : Enumeration) : List (List String) :=
  enumeration.variants.filterMap fun variant =>
    variant.convertedSource?.map fun source => texts source.type

/-- The types that the conversions of an expansion are for. -/
def Expansion.conversionTypes (expansion : Expansion) : List (List String) :=
  (expansion.implementations.filter Implementation.isConversion).map Implementation.type

/-! ## One literal -/

section Literal

variable {variant : Variant} {source : Field}

theorem sourceImpl?_eq (variant : Variant) :
    variant.sourceImpl? = variant.convertedSource?.map fun source =>
      ⟨variant.conditions, variant.name, source.name, source.type⟩ := by
  unfold Variant.sourceImpl? VariantShape.sourceImpl? Variant.convertedSource? Variant.isInternal
  cases variant.shape.isInternal with
  | true => rfl
  | false =>
    simp only [Bool.false_eq_true, if_false, Variant.shape, Option.map_map]
    rfl

theorem context_mem_fieldNames (present : variant.HasContext) :
    "context" ∈ variant.fieldNames := by
  obtain ⟨field, member, context⟩ := present
  have named : field.name = .plain "context" := by simpa [Field.isContext] using context
  exact List.mem_map.mpr ⟨field, member, by rw [named]; rfl⟩

theorem find?_of_convertedSource? (found : variant.convertedSource? = some source) :
    variant.namedFields.find? Field.isSource = some source := by
  unfold Variant.convertedSource? at found
  split at found
  · cases found
  · exact found

/-- The literal for a source fits when there is no third field and the source is not itself the
context. -/
theorem fits_source_iff (admitted : variant.Admitted)
    (found : variant.convertedSource? = some source) (value : String) :
    VariantLiteral.Fits ⟨variant.name, [⟨source.name, none⟩, contextMember value]⟩ variant ↔
      source.name.text ≠ "context" ∧
        ∀ name ∈ variant.fieldNames, name = source.name.text ∨ name = "context" := by
  have first := find?_of_convertedSource? found
  have source_mem : source.name.text ∈ variant.fieldNames :=
    List.mem_map_of_mem (List.mem_of_find?_eq_some first)
  have context_mem : "context" ∈ variant.fieldNames :=
    context_mem_fieldNames (admitted.hasContext
      ⟨source, List.mem_of_find?_eq_some first, List.find?_some first⟩)
  have names : VariantLiteral.names
      ⟨variant.name, [⟨source.name, none⟩, contextMember value]⟩ =
        [source.name.text, "context"] := rfl
  constructor
  · intro fits
    have once := fits.once
    rw [names, List.nodup_cons, List.mem_singleton] at once
    refine ⟨once.1, fun name member => ?_⟩
    simpa [names] using (fits.fields name).mpr member
  · rintro ⟨apart, others⟩
    refine ⟨rfl, ?_, fun name => ?_⟩
    · rw [names]
      simpa using apart
    · rw [names, List.mem_cons, List.mem_singleton]
      constructor
      · rintro (rfl | rfl)
        · exact source_mem
        · exact context_mem
      · exact others name

/-- The literal for a text fits when the fields are those of its members. -/
theorem fits_text_iff (internal : variant.isInternal) (conditions : List Attribute)
    (type : List String) (form : String) :
    (textConversion conditions type form).literal.Fits variant ↔ variant.HoldsMessage := by
  have named : variant.name = .plain "Internal" := by
    simpa [Variant.isInternal, VariantShape.isInternal, Variant.shape] using internal
  have names : (textConversion conditions type form).literal.names = ["message", "context"] := rfl
  unfold Variant.HoldsMessage
  constructor
  · intro fits name
    rw [← fits.fields name, names, List.mem_cons, List.mem_singleton]
  · intro fields
    refine ⟨named.symm, ?_, fun name => ?_⟩
    · rw [names]
      decide
    · rw [names, fields name, List.mem_cons, List.mem_singleton]

end Literal

/-! ## All literals -/

namespace Enumeration

variable {enumeration : Enumeration} {expansion : Expansion}

theorem mem_built_iff {pair : Variant × Implementation} :
    pair ∈ enumeration.built ↔
      (pair.1 ∈ enumeration.variants ∧ pair.2 ∈ pair.1.sourceImplementations) ∨
        (enumeration.internal? = some pair.1 ∧
          pair.2 ∈ textConversions pair.1.conditions) := by
  obtain ⟨variant, impl⟩ := pair
  simp [built]

theorem fits_sources_iff (admitted : ∀ variant ∈ enumeration.variants, variant.Admitted) :
    (∀ variant ∈ enumeration.variants, ∀ impl ∈ variant.sourceImplementations,
        impl.literal.Fits variant) ↔
      ∀ variant ∈ enumeration.variants, variant.PairsSource := by
  refine forall₂_congr fun variant member => ?_
  unfold Variant.sourceImplementations Variant.PairsSource
  rw [sourceImpl?_eq]
  cases found : variant.convertedSource? with
  | none => simp
  | some source =>
    have fits := fits_source_iff (admitted variant member) found
    simp [SourceImpl.implementations, SourceImpl.conversion, SourceImpl.contextual, fits]

theorem fits_texts_iff :
    (∀ variant, enumeration.internal? = some variant →
        ∀ impl ∈ textConversions variant.conditions, impl.literal.Fits variant) ↔
      ∀ variant, enumeration.internal? = some variant → variant.HoldsMessage := by
  refine forall₂_congr fun variant found => ?_
  have internal : variant.isInternal := List.find?_some found
  simp [textConversions, fits_text_iff internal]

theorem fits_iff (admitted : ∀ variant ∈ enumeration.variants, variant.Admitted) :
    (∀ pair ∈ enumeration.built, pair.2.literal.Fits pair.1) ↔
      (∀ variant ∈ enumeration.variants, variant.PairsSource) ∧
        ∀ variant, enumeration.internal? = some variant → variant.HoldsMessage := by
  rw [← fits_sources_iff admitted, ← fits_texts_iff]
  constructor
  · intro fits
    exact ⟨fun variant member impl among =>
        fits (variant, impl) (mem_built_iff.mpr (.inl ⟨member, among⟩)),
      fun variant found impl among =>
        fits (variant, impl) (mem_built_iff.mpr (.inr ⟨found, among⟩))⟩
  · rintro ⟨sources, conversions⟩ pair member
    rcases mem_built_iff.mp member with ⟨declared, among⟩ | ⟨found, among⟩
    · exact sources pair.1 declared pair.2 among
    · exact conversions pair.1 found pair.2 among

/-! ## The types of conversions -/

theorem conversionTypes_sources (enumeration : Enumeration) :
    ((enumeration.expansion.sources.flatMap SourceImpl.implementations).filter
        Implementation.isConversion).map Implementation.type = enumeration.sourceTypes := by
  -- Of the two implementations for a source one is a conversion.
  have single (impl : SourceImpl) :
      (impl.implementations.filter Implementation.isConversion).map Implementation.type =
        [texts impl.type] := rfl
  rw [List.filter_flatMap, List.map_flatMap]
  simp only [single]
  change (enumeration.variants.filterMap Variant.sourceImpl?).flatMap
    (fun impl => [texts impl.type]) = _
  rw [← List.map_eq_flatMap, List.map_filterMap, sourceTypes]
  congr 1
  funext variant
  rw [sourceImpl?_eq, Option.map_map]
  rfl

theorem conversionTypes_expansion (enumeration : Enumeration) :
    enumeration.expansion.conversionTypes =
      enumeration.sourceTypes ++
        if enumeration.internal?.isSome then [borrowedType, ownedType] else [] := by
  rw [Expansion.conversionTypes, Expansion.implementations, List.filter_append, List.map_append,
    conversionTypes_sources]
  congr 1
  change List.map _ (List.filter _
    (((enumeration.internal?.map Variant.conditions).map textConversions).getD [])) = _
  cases enumeration.internal? with
  | none => rfl
  | some variant => rfl

theorem nodup_conversionTypes_iff (enumeration : Enumeration) :
    enumeration.expansion.conversionTypes.Nodup ↔
      enumeration.sourceTypes.Nodup ∧
        (enumeration.internal?.isSome →
          borrowedType ∉ enumeration.sourceTypes ∧ ownedType ∉ enumeration.sourceTypes) := by
  have apart : [borrowedType, ownedType].Nodup := by decide +kernel
  rw [conversionTypes_expansion]
  cases enumeration.internal?.isSome with
  | false => simp
  | true =>
    rw [if_pos rfl, List.nodup_append]
    constructor
    · rintro ⟨sources, -, others⟩
      refine ⟨sources, fun _ => ⟨fun member => ?_, fun member => ?_⟩⟩
      · exact others _ member _ List.mem_cons_self rfl
      · exact others _ member _ (List.mem_cons_of_mem _ List.mem_cons_self) rfl
    · rintro ⟨sources, others⟩
      obtain ⟨no_borrowed, no_owned⟩ := others rfl
      refine ⟨sources, apart, fun type member other among => ?_⟩
      rw [List.mem_cons, List.mem_singleton] at among
      rintro rfl
      rcases among with rfl | rfl
      · exact no_borrowed member
      · exact no_owned member

/-- The implementations that an expansion consists of, and when they are well formed: all their
literals fit the variants that they are generated for exactly when every source that is converted
stands beside its context alone, and the internal variant that texts are converted into has a
message and a context; no two conversions are for the same type exactly when no two sources are
of the same type and, beside an internal variant, none is a text. -/
theorem implementations_wellFormed_iff (expanded : enumeration.expand = .ok expansion) :
    (expansion.implementations = enumeration.built.map Prod.snd ∧
      expansion.tokens = expansion.leadTexts ++
        (enumeration.built.flatMap fun pair =>
          pair.2.texts enumeration.name.spelling expansion.extension) ++
        formatContextWords) ∧
    ((∀ pair ∈ enumeration.built, pair.2.literal.Fits pair.1) ↔
      (∀ variant ∈ enumeration.variants, variant.PairsSource) ∧
        ∀ variant, enumeration.internal? = some variant → variant.HoldsMessage) ∧
    (expansion.conversionTypes.Nodup ↔
      enumeration.sourceTypes.Nodup ∧
        (enumeration.internal?.isSome →
          borrowedType ∉ enumeration.sourceTypes ∧ ownedType ∉ enumeration.sourceTypes)) := by
  obtain ⟨admitted, rfl⟩ := expand_eq_ok_iff.mp expanded
  refine ⟨⟨enumeration.implementations_expansion, ?_⟩, fits_iff admitted,
    enumeration.nodup_conversionTypes_iff⟩
  rw [Expansion.tokens_eq, implementations_expansion, List.flatMap_map]
  rfl

end Enumeration

/-- An enum with a source and an internal variant that has a message. -/
def walkEnum : Enumeration where
  attributes := []
  visibility := []
  name := .plain "WalkError"
  generics := []
  whereClause := []
  variants :=
    [⟨[], .plain "Io", .named [⟨[], [], .plain "source", [.word "Error"]⟩,
        ⟨[], [], .plain "context", contextTokens⟩] true, []⟩,
      ⟨[], .plain "Internal", .named [⟨[], [], .plain "message", [.word "String"]⟩,
        ⟨[], [], .plain "context", contextTokens⟩] true, []⟩]
  comma := false

theorem implementations_wellFormed_walkEnum :
    walkEnum.expand = .ok walkEnum.expansion ∧
      (∀ pair ∈ walkEnum.built, pair.2.literal.Fits pair.1) ∧
      walkEnum.expansion.conversionTypes.Nodup := by
  have expanded : walkEnum.expand = .ok walkEnum.expansion := rfl
  obtain ⟨-, literals, types⟩ := Enumeration.implementations_wellFormed_iff expanded
  refine ⟨expanded, literals.mpr ⟨?_, ?_⟩, types.mpr (by decide +kernel)⟩
  · simp [walkEnum, Variant.PairsSource, Variant.convertedSource?, Variant.fieldNames,
      Variant.isInternal, Variant.shape, VariantShape.isInternal, Variant.namedFields,
      Field.isSource, Identifier.plain]
  · intro variant found name
    obtain rfl := Option.some.inj found
    change name ∈ ["message", "context"] ↔ _
    rw [List.mem_cons, List.mem_singleton]

/-! ## An internal variant with a code -/

/-- An enum whose internal variant holds a code and no message. -/
def codedInternalText : String :=
  "enum E \x7b Internal \x7b code: u8 \x7d \x7d"

def codedInternalVariant : Variant where
  attributes := []
  name := .plain "Internal"
  fields := .named [⟨[], [], .plain "code", [.word "u8"]⟩] false
  discriminant := []

def codedInternalEnum : Enumeration where
  attributes := []
  visibility := []
  name := .plain "E"
  generics := []
  whereClause := []
  variants := [codedInternalVariant]
  comma := false

/-- The enum is expanded, and the conversion of borrowed texts builds a variant with a message. -/
theorem built_codedInternalEnum :
    Item.parse? codedInternalText = some (.enumeration codedInternalEnum) ∧
      codedInternalEnum.expand = .ok codedInternalEnum.expansion ∧
      ∃ pair ∈ codedInternalEnum.built, pair.2.isConversion ∧ ¬ pair.2.literal.Fits pair.1 := by
  refine ⟨by decide +kernel, rfl,
    (codedInternalVariant, textConversion [] borrowedType "Borrowed"), List.mem_cons_self, rfl,
    fun fits => ?_⟩
  have declared := (fits.fields "message").mp (by decide)
  exact absurd declared (by decide)

end IdentityClaims.ErrorEnum
