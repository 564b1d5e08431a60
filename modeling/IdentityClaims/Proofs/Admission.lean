import IdentityClaims.ErrorEnum.Expansion

/-!
# Which enums are expanded

A variant is admitted (`inspect_variant`) if its fields have names, the field that counts as its
context has the type of contexts, and it has a context if it has a source. An enum is expanded
(`expand`) exactly when all its variants are admitted. Otherwise the first check that its first
other variant fails is all that is told of it.
-/

namespace IdentityClaims.ErrorEnum

namespace Variant

/-! ## What is asked of a variant -/

/-- The fields of a variant that have names. -/
def namedFields (variant : Variant) : List Field :=
  match variant.fields with
  | .named fields _ => fields
  | _ => []

/-- The fields are named ones, of which there may be none. -/
def HasNamedFields (variant : Variant) : Prop :=
  ∃ fields comma, variant.fields = .named fields comma

def HasContext (variant : Variant) : Prop :=
  ∃ field ∈ variant.namedFields, field.isContext

def HasSource (variant : Variant) : Prop :=
  ∃ field ∈ variant.namedFields, field.isSource

/-- The first of the fields that are named as the context. -/
def FirstContext (variant : Variant) (field : Field) : Prop :=
  ∃ before after, variant.namedFields = before ++ field :: after ∧ field.isContext ∧
    ∀ other ∈ before, ¬ other.isContext

/-- One of the fields that are named as the context. -/
def ContextField (variant : Variant) (field : Field) : Prop :=
  field ∈ variant.namedFields ∧ field.isContext

/-- What is asked of a variant, where the type of contexts is asked of certain fields. -/
structure Meets (variant : Variant) (asked : Field → Prop) : Prop where
  named : variant.HasNamedFields
  contextType : ∀ field, asked field → isContextType field.type
  hasContext : variant.HasSource → variant.HasContext

/-- The first of these checks that a variant fails. -/
inductive Fails (variant : Variant) (asked : Field → Prop) : Flaw → Prop where
  | unnamedFields (unnamed : ¬ variant.HasNamedFields) : Fails variant asked .unnamedFields
  | contextType {field : Field} (named : variant.HasNamedFields) (among : asked field)
      (other : ¬ isContextType field.type) : Fails variant asked .contextType
  | sourceWithoutContext (named : variant.HasNamedFields) (source : variant.HasSource)
      (missing : ¬ variant.HasContext) : Fails variant asked .sourceWithoutContext

/-- What is checked of a variant: of several fields that are named as the context, the first one
counts. -/
abbrev Admitted (variant : Variant) : Prop :=
  variant.Meets variant.FirstContext

/-- The other fields that are named as the context have its type if the first one has it. -/
def UniformContexts (variant : Variant) : Prop :=
  ∀ first, variant.FirstContext first → isContextType first.type →
    ∀ field, variant.ContextField field → isContextType field.type

/-- The shape that an admitted variant has. -/
def shape (variant : Variant) : VariantShape where
  name := variant.name
  hasContext := (variant.namedFields.find? Field.isContext).isSome
  source := (variant.namedFields.find? Field.isSource).map fun field => (field.name, field.type)
  conditions := variant.conditions

def arm? (variant : Variant) : Option ContextArm := variant.shape.arm?

def sourceImpl? (variant : Variant) : Option SourceImpl := variant.shape.sourceImpl?

def isInternal (variant : Variant) : Bool := variant.shape.isInternal

/-! ## Inspection of one variant -/

variable {variant : Variant} {flaw : Flaw}

theorem first_iff_find? {α : Type} {items : List α} {item : α} {counts : α → Bool} :
    (∃ before after, items = before ++ item :: after ∧ counts item ∧
      ∀ other ∈ before, ¬ counts other) ↔ items.find? counts = some item := by
  rw [List.find?_eq_some_iff_append]
  constructor
  · rintro ⟨before, after, split, found, others⟩
    exact ⟨found, before, after, split, by simpa using others⟩
  · rintro ⟨found, before, after, split, others⟩
    exact ⟨before, after, split, found, by simpa using others⟩

theorem firstContext_iff {field : Field} :
    variant.FirstContext field ↔ variant.namedFields.find? Field.isContext = some field :=
  first_iff_find?

theorem hasContext_iff :
    variant.HasContext ↔ (variant.namedFields.find? Field.isContext).isSome := by
  rw [List.find?_isSome, HasContext]

theorem hasSource_iff :
    variant.HasSource ↔ (variant.namedFields.find? Field.isSource).isSome := by
  rw [List.find?_isSome, HasSource]

theorem inspect_of_admitted (admitted : variant.Admitted) :
    variant.inspect = .ok variant.shape := by
  obtain ⟨fields, comma, named⟩ := admitted.named
  have own : variant.namedFields = fields := by rw [namedFields, named]
  have typed : (fields.find? Field.isContext).any (fun field => !isContextType field.type) =
      false := by
    cases found : fields.find? Field.isContext with
    | none => rfl
    | some field =>
      have first : variant.FirstContext field := firstContext_iff.mpr (by rw [own, found])
      rw [Option.any_some, admitted.contextType field first]
      rfl
  have sourced : ((fields.find? Field.isSource).isSome &&
      (fields.find? Field.isContext).isNone) = false := by
    have required := admitted.hasContext
    rw [hasContext_iff, hasSource_iff, own] at required
    cases source : (fields.find? Field.isSource).isSome with
    | false => rfl
    | true =>
      rw [Bool.true_and, ← Option.not_isSome, required source]
      rfl
  unfold inspect
  simp only [named, typed, sourced, shape, own, Bool.false_eq_true, if_false]

theorem inspect_of_fails (fails : variant.Fails variant.FirstContext flaw) :
    variant.inspect = .error flaw := by
  cases fails with
  | unnamedFields unnamed =>
    unfold inspect
    split
    next fields comma named => exact absurd ⟨fields, comma, named⟩ unnamed
    next => rfl
  | contextType named first other =>
    obtain ⟨fields, comma, named⟩ := named
    rw [firstContext_iff, namedFields, named] at first
    unfold inspect
    simp only [named, first, Option.any_some, other, Bool.not_false, if_true]
  | sourceWithoutContext named source missing =>
    obtain ⟨fields, comma, named⟩ := named
    rw [hasContext_iff, namedFields, named, Bool.not_eq_true, Option.isSome_eq_false_iff,
      Option.isNone_iff_eq_none] at missing
    rw [hasSource_iff, namedFields, named] at source
    unfold inspect
    simp only [named, missing, source, Option.any_none, Option.isNone_none, Bool.and_true,
      Bool.false_eq_true, if_false, if_true]

/-- A variant that is not admitted fails one of the checks. -/
theorem admitted_or_fails (variant : Variant) :
    variant.Admitted ∨ ∃ flaw, variant.Fails variant.FirstContext flaw := by
  by_cases named : variant.HasNamedFields
  · by_cases typed : ∀ field, variant.FirstContext field → isContextType field.type
    · by_cases required : variant.HasSource → variant.HasContext
      · exact .inl ⟨named, typed, required⟩
      · obtain ⟨source, missing⟩ := Classical.not_imp.mp required
        exact .inr ⟨_, .sourceWithoutContext named source missing⟩
    · obtain ⟨field, refused⟩ := Classical.not_forall.mp typed
      obtain ⟨first, other⟩ := Classical.not_imp.mp refused
      exact .inr ⟨_, .contextType named first other⟩
  · exact .inr ⟨_, .unnamedFields named⟩

theorem FirstContext.contextField {field : Field} (first : variant.FirstContext field) :
    variant.ContextField field := by
  obtain ⟨before, after, split, context, -⟩ := first
  exact ⟨by simp [split], context⟩

theorem exists_firstContext {field : Field} (context : variant.ContextField field) :
    ∃ first, variant.FirstContext first := by
  have present : variant.HasContext := ⟨field, context.1, context.2⟩
  rw [hasContext_iff, Option.isSome_iff_exists] at present
  simpa only [firstContext_iff] using present

/-- What is checked is what is asked of all fields that are named as the context, unless only the
first one has the type. -/
theorem meets_contextField_iff :
    variant.Meets variant.ContextField ↔ variant.Admitted ∧ variant.UniformContexts := by
  constructor
  · intro meets
    refine ⟨⟨meets.named, fun field first => ?_, meets.hasContext⟩, fun _ _ _ => ?_⟩
    · exact meets.contextType field first.contextField
    · exact meets.contextType
  · rintro ⟨admitted, uniform⟩
    refine ⟨admitted.named, fun field context => ?_, admitted.hasContext⟩
    obtain ⟨first, leads⟩ := exists_firstContext context
    exact uniform first leads (admitted.contextType first leads) field context

theorem fails_contextField_iff (uniform : variant.UniformContexts) :
    variant.Fails variant.FirstContext flaw ↔ variant.Fails variant.ContextField flaw := by
  constructor
  · intro fails
    cases fails with
    | unnamedFields unnamed => exact .unnamedFields unnamed
    | contextType named first other => exact .contextType named first.contextField other
    | sourceWithoutContext named source missing =>
      exact .sourceWithoutContext named source missing
  · intro fails
    cases fails with
    | unnamedFields unnamed => exact .unnamedFields unnamed
    | contextType named context other =>
      obtain ⟨first, leads⟩ := exists_firstContext context
      exact .contextType named leads fun typed => other (uniform first leads typed _ context)
    | sourceWithoutContext named source missing =>
      exact .sourceWithoutContext named source missing

end Variant

namespace Enumeration

/-! ## Expansion of an enum -/

variable {enumeration : Enumeration} {flaw : Flaw}

/-- The variant that texts are converted into: the first internal one. -/
def internal? (enumeration : Enumeration) : Option Variant :=
  enumeration.variants.find? Variant.isInternal

/-- The expansion that an enum of admitted variants has. -/
def expansion (enumeration : Enumeration) : Expansion where
  item := enumeration
  derives := enumeration.missingDerives
  arms := enumeration.variants.filterMap Variant.arm?
  sources := enumeration.variants.filterMap Variant.sourceImpl?
  conversions := enumeration.internal?.map Variant.conditions

/-- The first check that the first variant fails that fails any, whatever the variants behind it
look like. -/
def FirstFlaw (enumeration : Enumeration) (asked : Variant → Field → Prop) (flaw : Flaw) : Prop :=
  ∃ before variant after, enumeration.variants = before ++ variant :: after ∧
    (∀ earlier ∈ before, earlier.Meets (asked earlier)) ∧ variant.Fails (asked variant) flaw

theorem mapM_inspect_of_admitted {variants : List Variant}
    (admitted : ∀ variant ∈ variants, variant.Admitted) :
    variants.mapM Variant.inspect = .ok (variants.map Variant.shape) := by
  induction variants with
  | nil => rfl
  | cons variant rest ih =>
    obtain ⟨first, later⟩ := List.forall_mem_cons.mp admitted
    rw [List.mapM_cons, Variant.inspect_of_admitted first, ih later]
    rfl

/-- Inspection stops at the first flaw. -/
theorem mapM_inspect_of_fails {before : List Variant} {variant : Variant}
    (admitted : ∀ earlier ∈ before, earlier.Admitted)
    (fails : variant.Fails variant.FirstContext flaw) (after : List Variant) :
    (before ++ variant :: after).mapM Variant.inspect = .error flaw := by
  induction before with
  | nil =>
    rw [List.nil_append, List.mapM_cons, Variant.inspect_of_fails fails]
    rfl
  | cons earlier rest ih =>
    obtain ⟨first, later⟩ := List.forall_mem_cons.mp admitted
    rw [List.cons_append, List.mapM_cons, Variant.inspect_of_admitted first, ih later]
    rfl

theorem expand_of_admitted (admitted : ∀ variant ∈ enumeration.variants, variant.Admitted) :
    enumeration.expand = .ok enumeration.expansion := by
  have arms : (enumeration.variants.map Variant.shape).filterMap VariantShape.arm? =
      enumeration.variants.filterMap Variant.arm? := List.filterMap_map
  have sources : (enumeration.variants.map Variant.shape).filterMap VariantShape.sourceImpl? =
      enumeration.variants.filterMap Variant.sourceImpl? := List.filterMap_map
  have conversions : ((enumeration.variants.map Variant.shape).find?
      VariantShape.isInternal).map VariantShape.conditions =
        enumeration.internal?.map Variant.conditions := by
    rw [List.find?_map, Option.map_map]
    rfl
  rw [expand, mapM_inspect_of_admitted admitted, expansion, ← arms, ← sources, ← conversions]
  rfl

theorem expand_of_firstFlaw (first : enumeration.FirstFlaw Variant.FirstContext flaw) :
    enumeration.expand = .error flaw := by
  obtain ⟨before, variant, after, split, admitted, fails⟩ := first
  rw [expand, split, mapM_inspect_of_fails admitted fails after]
  rfl

theorem admitted_or_firstFlaw (enumeration : Enumeration) :
    (∀ variant ∈ enumeration.variants, variant.Admitted) ∨
      ∃ flaw, enumeration.FirstFlaw Variant.FirstContext flaw := by
  unfold FirstFlaw
  induction enumeration.variants with
  | nil => exact .inl (List.forall_mem_nil _)
  | cons variant rest ih =>
    rcases variant.admitted_or_fails with first | ⟨flaw, fails⟩
    · rcases ih with later | ⟨flaw, before, other, after, split, admitted, fails⟩
      · exact .inl (List.forall_mem_cons.mpr ⟨first, later⟩)
      · exact .inr ⟨flaw, variant :: before, other, after, by rw [split]; rfl,
          List.forall_mem_cons.mpr ⟨first, admitted⟩, fails⟩
    · exact .inr ⟨flaw, [], variant, rest, rfl, List.forall_mem_nil _, fails⟩

/-- An enum is expanded exactly when all its variants are admitted. -/
theorem expand_eq_ok_iff {expansion : Expansion} :
    enumeration.expand = .ok expansion ↔
      (∀ variant ∈ enumeration.variants, variant.Admitted) ∧
        expansion = enumeration.expansion := by
  constructor
  · intro expanded
    rcases enumeration.admitted_or_firstFlaw with admitted | ⟨flaw, first⟩
    · rw [expand_of_admitted admitted] at expanded
      exact ⟨admitted, (Except.ok.inj expanded).symm⟩
    · rw [expand_of_firstFlaw first] at expanded
      cases expanded
  · rintro ⟨admitted, rfl⟩
    exact expand_of_admitted admitted

theorem expand_eq_error_iff :
    enumeration.expand = .error flaw ↔ enumeration.FirstFlaw Variant.FirstContext flaw := by
  constructor
  · intro refused
    rcases enumeration.admitted_or_firstFlaw with admitted | ⟨other, first⟩
    · rw [expand_of_admitted admitted] at refused
      cases refused
    · rw [expand_of_firstFlaw first] at refused
      cases refused
      exact first
  · exact expand_of_firstFlaw

theorem firstFlaw_contextField_iff
    (uniform : ∀ variant ∈ enumeration.variants, variant.UniformContexts) :
    enumeration.FirstFlaw Variant.FirstContext flaw ↔
      enumeration.FirstFlaw Variant.ContextField flaw := by
  unfold FirstFlaw
  refine exists₃_congr fun before variant after => and_congr_right fun split => ?_
  rw [split, List.forall_mem_append, List.forall_mem_cons] at uniform
  obtain ⟨earlier, own, -⟩ := uniform
  refine and_congr ?_ (Variant.fails_contextField_iff own)
  refine forall₂_congr fun other among => ?_
  rw [Variant.meets_contextField_iff]
  exact (and_iff_left (earlier other among)).symm

end Enumeration

/-! ## All items -/

namespace Item

def variants : Item → List Variant
  | .enumeration e => e.variants
  | .other => []

/-- An enum whose variants all meet what is asked of them. -/
def Meets (asked : Variant → Field → Prop) (item : Item) : Prop :=
  ∃ enumeration, item = .enumeration enumeration ∧
    ∀ variant ∈ enumeration.variants, variant.Meets (asked variant)

/-- The flaw that is told of an item. -/
inductive Fails (asked : Variant → Field → Prop) : Item → Flaw → Prop where
  | notAnEnum : Fails asked .other .notAnEnum
  | variant {enumeration : Enumeration} {flaw : Flaw} (first : enumeration.FirstFlaw asked flaw) :
      Fails asked (.enumeration enumeration) flaw

/-- The message of a variant's flaw, as a literal. -/
inductive Reports : Flaw → String → Prop where
  | unnamedFields : Reports .unnamedFields
      "\"claimmap_error requires named fields for source/context handling\""
  | contextType : Reports .contextType "\"context field must be Option<Cow<'static, str>>\""
  | sourceWithoutContext : Reports .sourceWithoutContext ("\"claimmap_error requires " ++
      "`context: Option<Cow<'static, str>>` for variants with a source\"")

theorem Reports.tokens_eq {flaw : Flaw} {text : String} (reports : Reports flaw text) :
    flaw.tokens = [":", ":", "core", ":", ":", "compile_error", "!", "\x7b", text, "\x7d"] := by
  cases reports <;> decide +kernel

theorem expand_eq_ok_iff {item : Item} :
    (∃ expansion, item.expand = .ok expansion) ↔ item.Meets Variant.FirstContext := by
  constructor
  · rintro ⟨expansion, expanded⟩
    cases item with
    | enumeration e => exact ⟨e, rfl, (Enumeration.expand_eq_ok_iff.mp expanded).1⟩
    | other => cases expanded
  · rintro ⟨e, rfl, admitted⟩
    exact ⟨_, Enumeration.expand_of_admitted admitted⟩

theorem expand_eq_error_iff {item : Item} {flaw : Flaw} :
    item.expand = .error flaw ↔ item.Fails Variant.FirstContext flaw := by
  constructor
  · intro refused
    cases item with
    | enumeration e => exact .variant (Enumeration.expand_eq_error_iff.mp refused)
    | other =>
      cases refused
      exact .notAnEnum
  · intro fails
    cases fails with
    | notAnEnum => rfl
    | variant first => exact Enumeration.expand_of_firstFlaw first

theorem meets_contextField_iff {item : Item} :
    item.Meets Variant.ContextField ↔
      item.Meets Variant.FirstContext ∧ ∀ variant ∈ item.variants, variant.UniformContexts := by
  constructor
  · rintro ⟨e, rfl, meets⟩
    refine ⟨⟨e, rfl, fun variant member => ?_⟩, fun variant member => ?_⟩
    · exact (Variant.meets_contextField_iff.mp (meets variant member)).1
    · exact (Variant.meets_contextField_iff.mp (meets variant member)).2
  · rintro ⟨⟨e, rfl, admitted⟩, uniform⟩
    refine ⟨e, rfl, fun variant member => Variant.meets_contextField_iff.mpr ?_⟩
    exact ⟨admitted variant member, uniform variant member⟩

theorem fails_contextField_iff {item : Item} {flaw : Flaw}
    (uniform : ∀ variant ∈ item.variants, variant.UniformContexts) :
    item.Fails Variant.FirstContext flaw ↔ item.Fails Variant.ContextField flaw := by
  constructor
  · intro fails
    cases fails with
    | notAnEnum => exact .notAnEnum
    | variant first => exact .variant ((Enumeration.firstFlaw_contextField_iff uniform).mp first)
  · intro fails
    cases fails with
    | notAnEnum => exact .notAnEnum
    | variant first => exact .variant ((Enumeration.firstFlaw_contextField_iff uniform).mpr first)

/-- What any item is replaced by: its expansion, if it is an enum whose variants meet what is
checked of them, and otherwise nothing but its flaw. An enum that meets all that the documentation
asks is expanded. One that does not is expanded only if a variant has a further field that is named
as the context but, other than the first one, is of another type; where no variant has, the flaw
is the one that the documentation asks for. A flaw is told as a compile error with its message. -/
theorem expand_exact (item : Item) :
    ((∃ expansion, item.expand = .ok expansion ∧ item.expandedTokens = expansion.tokens) ↔
      item.Meets Variant.FirstContext) ∧
    (∀ flaw, (item.expand = .error flaw ∧ item.expandedTokens = flaw.tokens) ↔
      item.Fails Variant.FirstContext flaw) ∧
    (item.Meets Variant.ContextField ↔
      item.Meets Variant.FirstContext ∧ ∀ variant ∈ item.variants, variant.UniformContexts) ∧
    ((∀ variant ∈ item.variants, variant.UniformContexts) → ∀ flaw,
      (item.Fails Variant.FirstContext flaw ↔ item.Fails Variant.ContextField flaw)) ∧
    Flaw.notAnEnum.tokens = ["compile_error", "!", "(",
      "\"claimmap_error can only be applied to enums\"", ")", ";"] ∧
    (∀ flaw text, Reports flaw text → flaw.tokens =
      [":", ":", "core", ":", ":", "compile_error", "!", "\x7b", text, "\x7d"]) := by
  refine ⟨?_, fun flaw => ?_, meets_contextField_iff, fun uniform flaw =>
    fails_contextField_iff uniform, by decide +kernel, fun _ _ => Reports.tokens_eq⟩
  · rw [← expand_eq_ok_iff]
    refine exists_congr fun expansion => and_iff_left_of_imp fun expanded => ?_
    rw [expandedTokens, expanded]
  · rw [← expand_eq_error_iff]
    refine and_iff_left_of_imp fun refused => ?_
    rw [expandedTokens, refused]

end Item

/-! ## Two fields that are named as the context -/

/-- The type of contexts, as it is written in front of another field. -/
def contextTokens : List Token :=
  [.word "Option", .punct '<' false, .word "Cow", .punct '<' true, .lifetime (.plain "static"),
    .punct ',' false, .word "str", .punct '>' true, .punct '>' true]

/-- The condition that holds on one platform. -/
def onPlatform (platform : String) : Attribute :=
  ⟨⟨[], [.plain "cfg"]⟩, .list .paren [.word platform]⟩

/-- An enum with a context of one type on one platform and of another on another. -/
def splitContextText : String :=
  "enum E \x7b V \x7b #[cfg(unix)] context: Option<Cow<'static, str>>," ++
    " #[cfg(windows)] context: String \x7d \x7d"

def splitContextVariant : Variant where
  attributes := []
  name := .plain "V"
  fields := .named
    [⟨[onPlatform "unix"], [], .plain "context", contextTokens⟩,
      ⟨[onPlatform "windows"], [], .plain "context", [.word "String"]⟩] false
  discriminant := []

def splitContextEnum : Enumeration where
  attributes := []
  visibility := []
  name := .plain "E"
  generics := []
  whereClause := []
  variants := [splitContextVariant]
  comma := false

/-- The enum is expanded, although it does not meet the requirements: the second field that is named
as its context has another type. -/
theorem expand_splitContextEnum :
    Item.parse? splitContextText = some (.enumeration splitContextEnum) ∧
      (Item.enumeration splitContextEnum).expand = .ok splitContextEnum.expansion ∧
      ¬ (Item.enumeration splitContextEnum).Meets Variant.ContextField := by
  refine ⟨by decide +kernel, rfl, ?_⟩
  rintro ⟨e, same, meets⟩
  obtain rfl := Item.enumeration.inj same
  have typed := (meets splitContextVariant List.mem_cons_self).contextType
    ⟨[onPlatform "windows"], [], .plain "context", [.word "String"]⟩
    ⟨List.mem_cons_of_mem _ List.mem_cons_self, by decide⟩
  exact absurd typed (by decide +kernel)

end IdentityClaims.ErrorEnum
