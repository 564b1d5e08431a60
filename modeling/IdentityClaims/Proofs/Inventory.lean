import IdentityClaims.Proofs.ConditionalVariants
import IdentityClaims.Proofs.DerivedTraits
import IdentityClaims.Proofs.VariantLiterals
import Mathlib.Data.List.Flatten
import Mathlib.Data.List.Forall2

/-!
# What an expansion consists of

What `expand` writes: an arm for each variant with a context, two implementations for each that is
not the internal one and has a source, and two for the internal one: each of these follows the order
of the variants, and depends on one variant alone, but for texts, which are converted into the first
internal variant. So variants that are added to an enum add to its expansion and take nothing away,
as long as the first internal variant stays the first. In front of the enum stand the derives it
lacks.
-/

namespace IdentityClaims.ErrorEnum

/-! ## The enum in its expansion -/

/-- The attribute that allows the patterns of messages. -/
def allowance : Attribute :=
  ⟨⟨[], [.plain "allow"]⟩, .list .paren [.word "non_shorthand_field_patterns"]⟩

theorem texts_allowance :
    texts allowance.tokens = words "# [ allow ( non_shorthand_field_patterns ) ]" := by
  decide +kernel

namespace Expansion

/-- The enum as it is declared by its expansion, behind the attributes that are added. -/
def declaration (expansion : Expansion) : Enumeration :=
  { expansion.item with
    attributes := allowance :: addedDerives expansion.derives ++ expansion.item.attributes }

theorem texts_declaration (expansion : Expansion) :
    texts expansion.declaration.tokens =
      words "# [ allow ( non_shorthand_field_patterns ) ]" ++
        texts ((addedDerives expansion.derives).flatMap Attribute.tokens) ++
        texts expansion.item.tokens := by
  rw [← texts_allowance]
  simp [declaration, Enumeration.tokens, texts]

theorem enumTexts_eq (expansion : Expansion) :
    expansion.enumTexts = texts expansion.declaration.tokens := by
  rw [texts_declaration, texts_addedDerives, enumTexts]

end Expansion

/-! ## What is generated for a variant -/

/-- A field is a source by its name or by an attribute. -/
def Field.HoldsSource (field : Field) : Prop :=
  field.name = .plain "source" ∨
    ∃ attr ∈ field.attributes, attr.path = ⟨[], [.plain "source"]⟩ ∨
      attr.path = ⟨[], [.plain "from"]⟩

theorem Field.isSource_iff {field : Field} : field.isSource ↔ field.HoldsSource := by
  simp [isSource, HoldsSource, Attribute.isWord_iff]

namespace Variant

/-- The first of the fields that are sources. -/
def FirstSource (variant : Variant) (field : Field) : Prop :=
  ∃ before after, variant.namedFields = before ++ field :: after ∧ field.HoldsSource ∧
    ∀ other ∈ before, ¬ other.HoldsSource

/-- The arm that puts a context on the variant. -/
def contextArm (variant : Variant) : ContextArm :=
  ⟨variant.conditions, variant.name⟩

/-- The implementations for a field of the variant as its source. -/
def sourceImpl (variant : Variant) (source : Field) : SourceImpl :=
  ⟨variant.conditions, variant.name, source.name, source.type⟩

variable {variant : Variant} {source : Field}

theorem isInternal_iff : variant.isInternal ↔ variant.name = .plain "Internal" := by
  simp [isInternal, VariantShape.isInternal, shape]

theorem firstSource_iff :
    variant.FirstSource source ↔ variant.namedFields.find? Field.isSource = some source := by
  simp only [FirstSource, ← Field.isSource_iff, first_iff_find?]

theorem convertedSource?_eq_some_iff :
    variant.convertedSource? = some source ↔
      variant.name ≠ .plain "Internal" ∧ variant.FirstSource source := by
  rw [firstSource_iff, Ne, ← isInternal_iff, convertedSource?]
  split
  next internal => simp [internal]
  next other => simp [other]

end Variant

namespace Enumeration

variable {enumeration : Enumeration}

theorem arms_expansion (enumeration : Enumeration) :
    enumeration.expansion.arms =
      (enumeration.variants.filter fun variant => variant.namedFields.any fun field =>
        field.name == .plain "context").map Variant.contextArm := by
  change enumeration.variants.filterMap Variant.arm? = _
  rw [← List.filterMap_eq_map, List.filterMap_filter]
  refine List.filterMap_congr fun variant _ => ?_
  rw [Variant.arm?, VariantShape.arm?, ← List.isSome_find?]
  rfl

theorem sources_expansion (enumeration : Enumeration) :
    enumeration.expansion.sources =
      enumeration.variants.filterMap fun variant =>
        variant.convertedSource?.map variant.sourceImpl :=
  List.filterMap_congr fun variant _ => sourceImpl?_eq variant

theorem internal?_isSome_iff :
    enumeration.internal?.isSome ↔
      ∃ variant ∈ enumeration.variants, variant.name = .plain "Internal" := by
  simp only [internal?, List.find?_isSome, Variant.isInternal_iff]

/-- The variant that texts are converted into is the first internal one. -/
theorem internal?_eq_some_iff {variant : Variant} :
    enumeration.internal? = some variant ↔
      ∃ before after, enumeration.variants = before ++ variant :: after ∧
        variant.name = .plain "Internal" ∧ ∀ other ∈ before, other.name ≠ .plain "Internal" := by
  simp only [Ne, ← Variant.isInternal_iff]
  exact Variant.first_iff_find?.symm

/-- What an expansion of an enum consists of. -/
structure Inventory (enumeration : Enumeration) (expansion : Expansion) : Prop where
  /-- Nothing else is written but the function that messages write contexts by. -/
  written : expansion.tokens =
    texts expansion.declaration.tokens ++
      traitWords enumeration.name.spelling (enumeration.name.text ++ "Ext")
        (expansion.arms.flatMap fun arm => texts (arm.conditions.flatMap Attribute.tokens) ++
          arm.bodyTexts enumeration.name.spelling) ++
      expansion.implementations.flatMap
        (Implementation.texts enumeration.name.spelling (enumeration.name.text ++ "Ext")) ++
      formatContextWords
  declared : expansion.declaration =
    { enumeration with
      attributes := allowance :: addedDerives expansion.derives ++ enumeration.attributes }
  /-- The enum is written behind the added attributes as it is. -/
  unchanged : texts expansion.declaration.tokens =
    words "# [ allow ( non_shorthand_field_patterns ) ]" ++
      texts ((addedDerives expansion.derives).flatMap Attribute.tokens) ++ texts enumeration.tokens
  derives : expansion.derives.Sublist [.debug, .error]
  /-- Of lists of nothing but paths all last segments count. -/
  lacking : ∀ names, List.Forall₂ Attribute.Lists enumeration.attributes names →
    expansion.derives =
      (if .plain "Debug" ∈ names.flatten then [] else [.debug]) ++
        (if .plain "Error" ∈ names.flatten then [] else [.error])
  once : ∀ names, List.Forall₂ Attribute.Lists enumeration.attributes names →
    ∀ id ∈ [Identifier.plain "Debug", .plain "Error"], names.flatten.count id ≤ 1 →
      ∃ declared, List.Forall₂ Attribute.Lists expansion.declaration.attributes declared ∧
        declared.flatten.count id = 1
  /-- Of other lists those count that only paths stand in front of. -/
  hidden : ∀ derive, derive ∈ expansion.derives ↔
    ∀ attr ∈ enumeration.attributes, ¬ attr.Derives derive.segment
  arms : expansion.arms =
    (enumeration.variants.filter fun variant => variant.namedFields.any fun field =>
      field.name == .plain "context").map Variant.contextArm
  sources : expansion.sources =
    enumeration.variants.filterMap fun variant =>
      variant.convertedSource?.map variant.sourceImpl
  converted : ∀ variant ∈ enumeration.variants, ∀ source,
    variant.convertedSource? = some source ↔
      variant.name ≠ .plain "Internal" ∧ variant.FirstSource source
  implementations : expansion.implementations =
    (expansion.sources.flatMap fun impl => [impl.conversion, impl.contextual]) ++
      (enumeration.internal?.map fun variant => textConversions variant.conditions).getD []
  internal : enumeration.internal?.isSome ↔
    ∃ variant ∈ enumeration.variants, variant.name = .plain "Internal"
  first : ∀ variant, enumeration.internal? = some variant ↔
    ∃ before after, enumeration.variants = before ++ variant :: after ∧
      variant.name = .plain "Internal" ∧ ∀ other ∈ before, other.name ≠ .plain "Internal"

theorem missingDerives_of_lists {names : List (List Identifier)}
    (lists : List.Forall₂ Attribute.Lists enumeration.attributes names) :
    enumeration.missingDerives =
      (if .plain "Debug" ∈ names.flatten then [] else [.debug]) ++
        (if .plain "Error" ∈ names.flatten then [] else [.error]) := by
  unfold missingDerives
  rw [Attribute.flatMap_derives_of_lists lists]
  by_cases debug : Identifier.plain "Debug" ∈ names.flatten <;>
    by_cases error : Identifier.plain "Error" ∈ names.flatten <;>
      simp only [List.filter_cons, List.filter_nil, Derive.segment, debug, error, not_true_eq_false,
        not_false_eq_true, decide_true, decide_false, if_true, if_false, Bool.false_eq_true] <;>
      rfl

/-- With the added attribute in front, what was listed at most once is listed exactly once. -/
theorem count_declared {names : List (List Identifier)}
    (lists : List.Forall₂ Attribute.Lists enumeration.attributes names) (derive : Derive)
    (once : names.flatten.count derive.segment ≤ 1) :
    ∃ declared,
      List.Forall₂ Attribute.Lists enumeration.expansion.declaration.attributes declared ∧
        declared.flatten.count derive.segment = 1 := by
  obtain ⟨added, attributes, same⟩ := lists_addedDerives enumeration.missingDerives
  have allowed : allowance.Lists [] := .nothing fun _ _ _ => by decide
  refine ⟨[] :: (added ++ names), .cons allowed (List.rel_append attributes lists), ?_⟩
  rw [← Attribute.flatMap_derives_of_lists lists] at once
  have total := count_derives once
  rwa [Attribute.flatMap_derives_of_lists (List.rel_append attributes lists)] at total

theorem inventory_expansion (enumeration : Enumeration) :
    enumeration.Inventory enumeration.expansion where
  written := by
    rw [Expansion.tokens_eq, Expansion.leadTexts, Expansion.enumTexts_eq]
    rfl
  declared := rfl
  unchanged := enumeration.expansion.texts_declaration
  derives := List.filter_sublist
  lacking _ := missingDerives_of_lists
  once names lists id among atMost := by
    rw [List.mem_cons, List.mem_singleton] at among
    rcases among with rfl | rfl
    · exact count_declared lists .debug atMost
    · exact count_declared lists .error atMost
  hidden _ := mem_missingDerives_iff
  arms := enumeration.arms_expansion
  sources := enumeration.sources_expansion
  converted _ _ _ := Variant.convertedSource?_eq_some_iff
  implementations := by
    change _ ++ ((enumeration.internal?.map Variant.conditions).map textConversions).getD [] = _
    rw [Option.map_map]
    rfl
  internal := internal?_isSome_iff
  first _ := internal?_eq_some_iff

end Enumeration

/-! ## Further variants -/

/-- All that an expansion generates is generated in another one as well, in the same order. It is
written with the same names. -/
structure Expansion.Keeps (extended expansion : Expansion) : Prop where
  name : extended.item.name = expansion.item.name
  arms : expansion.arms.Sublist extended.arms
  implementations : expansion.implementations.Sublist extended.implementations

namespace Enumeration

variable {enumeration other : Enumeration} {expansion : Expansion}

/-- Texts are converted under the same conditions as before, if they were converted at all. -/
def KeepsTexts (other enumeration : Enumeration) : Prop :=
  enumeration.internal? = none ∨
    other.internal?.map Variant.conditions = enumeration.internal?.map Variant.conditions

theorem keepsTexts_of_append {more : List Variant}
    (split : other.variants = enumeration.variants ++ more) : other.KeepsTexts enumeration := by
  have within : enumeration.variants <+: other.variants := ⟨more, split.symm⟩
  unfold KeepsTexts
  cases found : enumeration.internal? with
  | none => exact .inl rfl
  | some first => exact .inr (congrArg _ (within.find?_eq_some found))

theorem keeps_expansion (name : other.name = enumeration.name)
    (within : enumeration.variants.Sublist other.variants)
    (conversions : other.KeepsTexts enumeration) :
    other.expansion.Keeps enumeration.expansion where
  name := name
  arms := within.filterMap Variant.arm?
  implementations := by
    refine ((within.filterMap Variant.sourceImpl?).flatMap SourceImpl.implementations).append ?_
    change (((enumeration.internal?.map Variant.conditions).map textConversions).getD []).Sublist
      (((other.internal?.map Variant.conditions).map textConversions).getD [])
    rcases conversions with missing | same
    · rw [missing]
      exact List.nil_sublist _
    · rw [same]

/-- What an expansion consists of, and what further variants do to it. Of a derive attribute with
nothing but paths the last segments of all of them are read, as `missing_derives` does. Variants
behind those of an enum leave all that is generated as it is. So do variants in front of them and
between them, but for the conversions from texts, which stay if the first internal variant is under
the same conditions as before. -/
theorem expansion_inventory (expanded : enumeration.expand = .ok expansion) :
    enumeration.Inventory expansion ∧
    (∀ attr ∈ enumeration.attributes, ∀ delimiter content ids, attr.isWord "derive" →
      attr.argument = .list delimiter content → SpellsPaths ids content →
        attr.derives = ids ∧ ∀ id, attr.Derives id ↔ id ∈ ids) ∧
    (∀ (other : Enumeration) (more : List Variant), other.name = enumeration.name →
      other.variants = enumeration.variants ++ more → (∀ variant ∈ more, variant.Admitted) →
        ∃ extended, other.expand = .ok extended ∧ extended.Keeps expansion) ∧
    (∀ other : Enumeration, other.name = enumeration.name →
      enumeration.variants.Sublist other.variants →
      (∀ variant ∈ other.variants, variant.Admitted) →
        ∃ extended, other.expand = .ok extended ∧ expansion.arms.Sublist extended.arms ∧
          expansion.sources.Sublist extended.sources ∧
          (other.KeepsTexts enumeration → extended.Keeps expansion)) := by
  obtain ⟨admitted, rfl⟩ := expand_eq_ok_iff.mp expanded
  refine ⟨enumeration.inventory_expansion, ?_, ?_, ?_⟩
  · intro attr _ delimiter content ids word argument spelled
    have read := Attribute.derives_eq word argument spelled
    exact ⟨read, fun id => by rw [← Attribute.mem_derives_iff, read]⟩
  · intro other more name split later
    have within : enumeration.variants.Sublist other.variants :=
      split ▸ List.sublist_append_left _ _
    have all : ∀ variant ∈ other.variants, variant.Admitted := by
      rw [split]
      exact List.forall_mem_append.mpr ⟨admitted, later⟩
    exact ⟨_, expand_of_admitted all, keeps_expansion name within (keepsTexts_of_append split)⟩
  · intro other name within all
    exact ⟨_, expand_of_admitted all, within.filterMap Variant.arm?,
      within.filterMap Variant.sourceImpl?, keeps_expansion name within⟩

end Enumeration

/-- An enum that derives one of the traits that error enums need. -/
def debugEnum : Enumeration :=
  { walkEnum with
    attributes :=
      [⟨⟨[], [.plain "derive"]⟩, .list .paren [.word "Clone", .punct ',' false, .word "Debug"]⟩] }

/-- A variant whose second source counts for nothing. -/
def parseVariant : Variant :=
  ⟨[onPlatform "unix"], .plain "Parse",
    .named [⟨[], [], .plain "context", contextTokens⟩, ⟨[], [], .plain "source", [.word "Line"]⟩,
      ⟨[⟨⟨[], [.plain "from"]⟩, .none⟩], [], .plain "cause", [.word "Column"]⟩] false, []⟩

def extendedDebugEnum : Enumeration :=
  { debugEnum with variants := debugEnum.variants ++ [parseVariant] }

/-- The enum as its source declares it, token by token. -/
def extendedDebugTexts : List String :=
  ["#", "[", "derive", "(", "Clone", ",", "Debug", ")", "]", "enum", "WalkError", "\x7b",
    "Io", "\x7b", "source", ":", "Error", ",",
    "context", ":", "Option", "<", "Cow", "<", "'static", ",", "str", ">", ">", ",", "\x7d", ",",
    "Internal", "\x7b", "message", ":", "String", ",",
    "context", ":", "Option", "<", "Cow", "<", "'static", ",", "str", ">", ">", ",", "\x7d", ",",
    "#", "[", "cfg", "(", "unix", ")", "]", "Parse", "\x7b",
    "context", ":", "Option", "<", "Cow", "<", "'static", ",", "str", ">", ">", ",",
    "source", ":", "Line", ",", "#", "[", "from", "]", "cause", ":", "Column", "\x7d", "\x7d"]

theorem expansion_inventory_debugEnum :
    debugEnum.expand = .ok debugEnum.expansion ∧
      debugEnum.Inventory debugEnum.expansion ∧
      debugEnum.expansion.derives = [.error] ∧
      texts extendedDebugEnum.tokens = extendedDebugTexts ∧
      ∃ extended, extendedDebugEnum.expand = .ok extended ∧
        extended.Keeps debugEnum.expansion ∧
        extended.sources ≠ debugEnum.expansion.sources := by
  have expanded : debugEnum.expand = .ok debugEnum.expansion := rfl
  have accepted : extendedDebugEnum.expand = .ok extendedDebugEnum.expansion := rfl
  have admitted : ∀ variant ∈ [parseVariant], variant.Admitted := fun variant member =>
    (Enumeration.expand_eq_ok_iff.mp accepted).1 variant (List.mem_append_right _ member)
  obtain ⟨inventory, -, further, -⟩ := Enumeration.expansion_inventory expanded
  obtain ⟨extended, same, keeps⟩ := further extendedDebugEnum [parseVariant] rfl rfl admitted
  refine ⟨expanded, inventory, by decide +kernel, by decide +kernel, extended, same, keeps, ?_⟩
  obtain rfl := Except.ok.inj (accepted.symm.trans same)
  decide +kernel

/-! ## What is hidden, and what is lost -/

/-- A path with a given last segment stands in a list with commas around it, whatever else stands in
front of it. -/
def ListsAnywhere (id : Identifier) (content : List Token) : Prop :=
  ∃ before path after, content = before ++ path ++ after ∧ SpellsPath id path ∧
    (before = [] ∨ ∃ joined, before.getLast? = some (.punct ',' joined)) ∧
    (after = [] ∨ ∃ joined, after.head? = some (.punct ',' joined))

/-- An enum with something in its derives that is not a path alone. -/
def hiddenDeriveText : String :=
  "#[derive(Clone(x), Debug)] enum E \x7b \x7d"

def hiddenDeriveTokens : List Token :=
  [.word "Clone", .opening .paren, .word "x", .closing .paren, .punct ',' false, .word "Debug"]

def hiddenDeriveEnum : Enumeration where
  attributes := [⟨⟨[], [.plain "derive"]⟩, .list .paren hiddenDeriveTokens⟩]
  visibility := []
  name := .plain "E"
  generics := []
  whereClause := []
  variants := []
  comma := false

/-- The enum with the internal variant of one platform only. -/
def windowsInternalEnum : Enumeration :=
  { splitInternalEnum with variants := [platformInternal "windows"] }

/-- A derive behind something else than a path is derived again, and an internal variant in front of
another one takes the conversions from texts away from it. -/
theorem expansion_hiddenDeriveEnum :
    (Item.parse? hiddenDeriveText = some (.enumeration hiddenDeriveEnum) ∧
      hiddenDeriveEnum.expand = .ok hiddenDeriveEnum.expansion ∧
      ListsAnywhere (.plain "Debug") hiddenDeriveTokens ∧
      .debug ∈ hiddenDeriveEnum.expansion.derives) ∧
    windowsInternalEnum.expand = .ok windowsInternalEnum.expansion ∧
      splitInternalEnum.expand = .ok splitInternalEnum.expansion ∧
      splitInternalEnum.variants = platformInternal "unix" :: windowsInternalEnum.variants ∧
      ∃ impl ∈ windowsInternalEnum.expansion.implementations,
        impl ∉ splitInternalEnum.expansion.implementations := by
  have listed : ListsAnywhere (.plain "Debug") hiddenDeriveTokens :=
    ⟨hiddenDeriveTokens.take 5, [.word "Debug"], [], rfl, .relative .last, .inr ⟨false, rfl⟩,
      .inl rfl⟩
  refine ⟨⟨by decide +kernel, rfl, listed, by decide +kernel⟩, rfl, rfl, rfl,
    textConversion [onPlatform "windows"] borrowedType "Borrowed", ?_, ?_⟩
  · decide +kernel
  · decide +kernel

end IdentityClaims.ErrorEnum
