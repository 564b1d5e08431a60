import IdentityClaims.Proofs.Implementations

/-!
# Variants under conditions

The arms and the implementations of an expansion stand under the conditions of their variants. To
drop those whose conditions do not hold is to expand the enum without the variants whose
conditions do not hold, with one exception: texts are converted into the first internal variant
alone, whether or not it holds, so the conversions are lost to an internal variant behind it.
-/

namespace IdentityClaims.ErrorEnum

/-- Whether all conditions hold. -/
def met (holds : Attribute → Bool) (conditions : List Attribute) : Bool :=
  conditions.all holds

namespace Enumeration

/-- An enum without the variants whose conditions do not hold. -/
def restrict (holds : Attribute → Bool) (enumeration : Enumeration) : Enumeration :=
  { enumeration with
    variants := enumeration.variants.filter fun variant => met holds variant.conditions }

/-- The first internal variant holds, if any internal variant does. -/
def KeepsInternal (holds : Attribute → Bool) (enumeration : Enumeration) : Prop :=
  ∀ first, enumeration.internal? = some first → met holds first.conditions ∨
    ∀ variant ∈ enumeration.variants, variant.isInternal → ¬ met holds variant.conditions

end Enumeration

variable {holds : Attribute → Bool} {enumeration : Enumeration} {expansion : Expansion}

/-! ## What is generated for each variant -/

theorem Variant.conditions_of_arm? {variant : Variant} {arm : ContextArm}
    (generated : variant.arm? = some arm) : arm.conditions = variant.conditions := by
  unfold arm? VariantShape.arm? at generated
  split at generated
  · cases generated
    rfl
  · cases generated

theorem Variant.conditions_of_sourceImpl? {variant : Variant} {impl : SourceImpl}
    (generated : variant.sourceImpl? = some impl) : impl.conditions = variant.conditions := by
  unfold sourceImpl? VariantShape.sourceImpl? at generated
  split at generated
  · cases generated
  · obtain ⟨_, _, rfl⟩ := Option.map_eq_some_iff.mp generated
    rfl

/-- What is generated under the conditions of its variant may be dropped before or after it is
generated. -/
theorem filterMap_filter_met {α : Type} {generate : Variant → Option α}
    {conditions : α → List Attribute}
    (own : ∀ {variant item}, generate variant = some item → conditions item = variant.conditions)
    (variants : List Variant) :
    (variants.filter fun variant => met holds variant.conditions).filterMap generate =
      (variants.filterMap generate).filter fun item => met holds (conditions item) := by
  rw [List.filterMap_filter, List.filter_filterMap]
  refine List.filterMap_congr fun variant _ => ?_
  cases generated : generate variant with
  | none => exact ite_self none
  | some item => rw [Option.filter_some, own generated]

/-- Implementations that share their conditions are kept or dropped together. -/
theorem filter_met_of_shared {conditions : List Attribute} {impls : List Implementation}
    (shared : ∀ impl ∈ impls, impl.conditions = conditions) :
    impls.filter (fun impl => met holds impl.conditions) =
      if met holds conditions then impls else [] := by
  cases kept : met holds conditions with
  | false =>
    refine List.filter_eq_nil_iff.mpr fun impl member => ?_
    rw [shared impl member, kept]
    exact Bool.false_ne_true
  | true =>
    refine List.filter_eq_self.mpr fun impl member => ?_
    rw [shared impl member, kept]

theorem filter_textConversions (conditions : List Attribute) :
    (textConversions conditions).filter (fun impl => met holds impl.conditions) =
      if met holds conditions then textConversions conditions else [] :=
  filter_met_of_shared (by simp [textConversions, textConversion])

theorem filter_flatMap_implementations (sources : List SourceImpl) :
    (sources.flatMap SourceImpl.implementations).filter (fun impl => met holds impl.conditions) =
      (sources.filter fun impl => met holds impl.conditions).flatMap
        SourceImpl.implementations := by
  induction sources with
  | nil => rfl
  | cons impl rest ih =>
    have own : impl.implementations.filter (fun impl => met holds impl.conditions) =
        if met holds impl.conditions then impl.implementations else [] :=
      filter_met_of_shared
        (by simp [SourceImpl.implementations, SourceImpl.conversion, SourceImpl.contextual])
    rw [List.flatMap_cons, List.filter_append, ih, List.filter_cons, own]
    split
    · rw [List.flatMap_cons]
    · rfl

namespace Enumeration

/-! ## The internal variant -/

theorem internal?_restrict_of_none (missing : enumeration.internal? = none) :
    (enumeration.restrict holds).internal? = none := by
  unfold internal? at missing ⊢
  rw [List.find?_eq_none] at missing ⊢
  exact fun variant kept => missing variant (List.mem_of_mem_filter kept)

theorem internal?_restrict_of_met {first : Variant} (found : enumeration.internal? = some first)
    (kept : met holds first.conditions) :
    (enumeration.restrict holds).internal? = some first := by
  unfold internal? at found ⊢
  obtain ⟨internal, before, after, split, others⟩ := List.find?_eq_some_iff_append.mp found
  refine List.find?_eq_some_iff_append.mpr ⟨internal,
    before.filter fun variant => met holds variant.conditions,
    after.filter fun variant => met holds variant.conditions, ?_, ?_⟩
  · simp [restrict, split, kept]
  · exact fun other among => others other (List.mem_of_mem_filter among)

/-- Where the first internal variant does not hold, none must. -/
theorem keepsInternal_iff_of_not_met {first : Variant}
    (found : enumeration.internal? = some first) (dropped : met holds first.conditions = false) :
    enumeration.KeepsInternal holds ↔ (enumeration.restrict holds).internal? = none := by
  have missing_iff : (enumeration.restrict holds).internal? = none ↔
      ∀ variant ∈ (enumeration.restrict holds).variants, ¬ variant.isInternal :=
    List.find?_eq_none
  rw [missing_iff]
  constructor
  · intro keeps variant member internal
    obtain ⟨declared, kept⟩ := List.mem_filter.mp member
    rcases keeps first found with own | others
    · rw [dropped] at own
      cases own
    · exact others variant declared internal kept
  · intro missing _ _
    refine .inr fun variant declared internal kept => ?_
    exact missing variant (List.mem_filter.mpr ⟨declared, kept⟩) internal

theorem keepsInternal_of_single (single : enumeration.variants.countP Variant.isInternal ≤ 1) :
    enumeration.KeepsInternal holds := by
  intro first found
  obtain ⟨internal, before, after, split, others⟩ := List.find?_eq_some_iff_append.mp found
  cases kept : met holds first.conditions with
  | true => exact .inl rfl
  | false =>
    refine .inr fun variant member also => ?_
    rw [split, List.countP_append, List.countP_cons_of_pos internal] at single
    have behind : after.countP Variant.isInternal = 0 := by omega
    rw [List.countP_eq_zero] at behind
    rw [split, List.mem_append, List.mem_cons] at member
    rcases member with among | rfl | among
    · exact absurd also (by simpa using others variant among)
    · rw [kept]
      exact Bool.false_ne_true
    · exact absurd also (behind variant among)

/-! ## The whole expansion -/

theorem arms_restrict (holds : Attribute → Bool) (enumeration : Enumeration) :
    (enumeration.restrict holds).expansion.arms =
      enumeration.expansion.arms.filter fun arm => met holds arm.conditions :=
  filterMap_filter_met Variant.conditions_of_arm? enumeration.variants

theorem sources_restrict (holds : Attribute → Bool) (enumeration : Enumeration) :
    (enumeration.restrict holds).expansion.sources =
      enumeration.expansion.sources.filter fun impl => met holds impl.conditions :=
  filterMap_filter_met Variant.conditions_of_sourceImpl? enumeration.variants

theorem implementations_eq (enumeration : Enumeration) :
    enumeration.expansion.implementations =
      enumeration.expansion.sources.flatMap SourceImpl.implementations ++
        (enumeration.internal?.map fun variant => textConversions variant.conditions).getD [] := by
  rw [Expansion.implementations]
  congr 2
  exact Option.map_map _ _ _

theorem filter_implementations (holds : Attribute → Bool) (enumeration : Enumeration) :
    enumeration.expansion.implementations.filter (fun impl => met holds impl.conditions) =
      (enumeration.restrict holds).expansion.sources.flatMap SourceImpl.implementations ++
        ((enumeration.internal?.filter fun variant => met holds variant.conditions).map
          fun variant => textConversions variant.conditions).getD [] := by
  rw [implementations_eq, List.filter_append, filter_flatMap_implementations, sources_restrict]
  congr 1
  cases enumeration.internal? with
  | none => rfl
  | some first =>
    rw [Option.map_some, Option.getD_some, filter_textConversions, Option.filter_some]
    cases met holds first.conditions with
    | false => rfl
    | true => rfl

theorem implementations_restrict_of_keeps (keeps : enumeration.KeepsInternal holds) :
    (enumeration.restrict holds).expansion.implementations =
      enumeration.expansion.implementations.filter fun impl => met holds impl.conditions := by
  have same : (enumeration.restrict holds).internal? =
      enumeration.internal?.filter fun variant => met holds variant.conditions := by
    cases found : enumeration.internal? with
    | none => exact internal?_restrict_of_none found
    | some first =>
      cases kept : met holds first.conditions with
      | true => rw [internal?_restrict_of_met found kept, Option.filter_some, if_pos kept]
      | false =>
        rw [(keepsInternal_iff_of_not_met found kept).mp keeps, Option.filter_some, kept]
        rfl
  rw [implementations_eq, filter_implementations, same]

/-- The conversions are all that is lost. -/
theorem implementations_restrict_of_not_keeps (loses : ¬ enumeration.KeepsInternal holds) :
    ∃ later, (enumeration.restrict holds).internal? = some later ∧
      (enumeration.restrict holds).expansion.implementations =
        (enumeration.expansion.implementations.filter fun impl => met holds impl.conditions) ++
          textConversions later.conditions := by
  obtain ⟨first, refused⟩ := Classical.not_forall.mp loses
  obtain ⟨found, refused⟩ := Classical.not_imp.mp refused
  have dropped : met holds first.conditions = false := by
    simpa using fun kept => refused (.inl kept)
  have present := mt (keepsInternal_iff_of_not_met found dropped).mpr loses
  obtain ⟨later, last⟩ := Option.ne_none_iff_exists'.mp present
  refine ⟨later, last, ?_⟩
  rw [filter_implementations, found, Option.filter_some, dropped, implementations_eq, last]
  simp

theorem expand_restrict (expanded : enumeration.expand = .ok expansion) :
    (enumeration.restrict holds).expand = .ok (enumeration.restrict holds).expansion := by
  refine expand_of_admitted fun variant kept => ?_
  exact (expand_eq_ok_iff.mp expanded).1 variant (List.mem_of_mem_filter kept)

/-- Of an expansion that stands under conditions, the same is left as is generated for the variants
that are left of the enum, whatever holds: the arms, and all implementations if the first internal
variant is not dropped before another one. Otherwise the conversions from texts are missing. With
one internal variant at most, that does not happen. In the tokens each arm and each implementation
stands behind its own conditions. -/
theorem restrict_exact (expanded : enumeration.expand = .ok expansion)
    (holds : Attribute → Bool) :
    ∃ restricted, (enumeration.restrict holds).expand = .ok restricted ∧
      restricted.arms = (expansion.arms.filter fun arm => met holds arm.conditions) ∧
      (enumeration.KeepsInternal holds → restricted.implementations =
        expansion.implementations.filter fun impl => met holds impl.conditions) ∧
      (¬ enumeration.KeepsInternal holds → ∃ later,
        (enumeration.restrict holds).internal? = some later ∧ restricted.implementations =
          (expansion.implementations.filter fun impl => met holds impl.conditions) ++
            textConversions later.conditions) ∧
      (enumeration.variants.countP Variant.isInternal ≤ 1 →
        enumeration.KeepsInternal holds) ∧
      ∀ printed ∈ [expansion, restricted], printed.tokens = printed.enumTexts ++
        traitWords printed.item.name.spelling printed.extension
          (printed.arms.flatMap fun arm => texts (arm.conditions.flatMap Attribute.tokens) ++
            arm.bodyTexts printed.item.name.spelling) ++
        (printed.implementations.flatMap fun impl =>
          texts (impl.conditions.flatMap Attribute.tokens) ++
            impl.bodyTexts printed.item.name.spelling printed.extension) ++
        formatContextWords := by
  obtain ⟨-, rfl⟩ := expand_eq_ok_iff.mp expanded
  exact ⟨_, expand_restrict expanded, arms_restrict holds enumeration,
    implementations_restrict_of_keeps, implementations_restrict_of_not_keeps,
    keepsInternal_of_single, fun printed _ => printed.tokens_eq⟩

end Enumeration

/-! ## An internal variant for each platform -/

def splitInternalText : String :=
  "enum E \x7b #[cfg(unix)] Internal \x7b message: Cow<'static, str>," ++
    " context: Option<Cow<'static, str>>, \x7d," ++
    " #[cfg(windows)] Internal \x7b message: Cow<'static, str>," ++
    " context: Option<Cow<'static, str>>, \x7d \x7d"

/-- The internal variant of one platform. -/
def platformInternal (platform : String) : Variant where
  attributes := [onPlatform platform]
  name := .plain "Internal"
  fields := .named
    [⟨[], [], .plain "message", [.word "Cow", .punct '<' true, .lifetime (.plain "static"),
        .punct ',' false, .word "str", .punct '>' true]⟩,
      ⟨[], [], .plain "context", contextTokens⟩] true
  discriminant := []

def splitInternalEnum : Enumeration where
  attributes := []
  visibility := []
  name := .plain "E"
  generics := []
  whereClause := []
  variants := [platformInternal "unix", platformInternal "windows"]
  comma := false

/-- What holds on one platform. -/
def platformHolds (platform : String) (condition : Attribute) : Bool :=
  condition == onPlatform platform

/-- On the platform of the first internal variant nothing is lost. -/
theorem restrict_exact_splitInternalEnum :
    splitInternalEnum.expand = .ok splitInternalEnum.expansion ∧
      ∃ restricted,
        (splitInternalEnum.restrict (platformHolds "unix")).expand = .ok restricted ∧
        restricted.implementations = splitInternalEnum.expansion.implementations.filter
          fun impl => met (platformHolds "unix") impl.conditions := by
  have expanded : splitInternalEnum.expand = .ok splitInternalEnum.expansion := rfl
  obtain ⟨restricted, again, -, kept, -, -, -⟩ :=
    Enumeration.restrict_exact expanded (platformHolds "unix")
  refine ⟨expanded, restricted, again, kept fun first found => .inl ?_⟩
  obtain rfl := Option.some.inj found
  decide

/-- On the platform of the second one, the conversions from texts are lost. -/
theorem implementations_splitInternalEnum :
    Item.parse? splitInternalText = some (.enumeration splitInternalEnum) ∧
      splitInternalEnum.expand = .ok splitInternalEnum.expansion ∧
      (splitInternalEnum.expansion.implementations.filter
        fun impl => met (platformHolds "windows") impl.conditions) = [] ∧
      (splitInternalEnum.restrict (platformHolds "windows")).expand =
        .ok (splitInternalEnum.restrict (platformHolds "windows")).expansion ∧
      (splitInternalEnum.restrict (platformHolds "windows")).expansion.implementations =
        textConversions [onPlatform "windows"] :=
  ⟨by decide +kernel, rfl, by decide +kernel, rfl, by decide +kernel⟩

end IdentityClaims.ErrorEnum
