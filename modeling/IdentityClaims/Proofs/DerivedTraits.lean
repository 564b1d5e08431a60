import IdentityClaims.ErrorEnum.Expansion
import Mathlib.Data.List.Count
import Mathlib.Data.List.Nodup

/-!
# The traits of derive attributes

A derive attribute names the last segments of the paths in its list. The list is read path by path
(`missing_derives`), as long as a comma and another path follow, so of a list of nothing but paths
all are read. What cannot be read is no fault, but hides the paths behind it. The attribute that an
expansion adds is a list of nothing but paths: of the derives that no attribute of the enum names.
-/

namespace IdentityClaims.ErrorEnum

/-! ## Paths in a list -/

/-- Words with separators between them, the last one of which is given. -/
inductive SpellsSegments (id : Identifier) : List Token → Prop where
  | last : SpellsSegments id [.name id]
  | behind (first : Identifier) (joined : Bool) {tokens : List Token}
      (later : SpellsSegments id tokens) :
      SpellsSegments id (.name first :: .punct ':' true :: .punct ':' joined :: tokens)

/-- A path with a given last segment. A separator may stand in front of it. -/
inductive SpellsPath (id : Identifier) : List Token → Prop where
  | relative {tokens : List Token} (segments : SpellsSegments id tokens) : SpellsPath id tokens
  | absolute (joined : Bool) {tokens : List Token} (segments : SpellsSegments id tokens) :
      SpellsPath id (.punct ':' true :: .punct ':' joined :: tokens)

/-- Whether a path goes on with the tokens behind it. -/
def continues : List Token → Bool
  | .punct ':' true :: .punct ':' _ :: _ => true
  | _ => false

/-- A list with a path that has a given last segment. Only paths stand in front of that, with commas
between them. -/
inductive ListsPath (id : Identifier) : List Token → Prop where
  | here {path rest : List Token} (spelled : SpellsPath id path) (ends : continues rest = false) :
      ListsPath id (path ++ rest)
  | later {other : Identifier} {path rest : List Token} (joined : Bool)
      (spelled : SpellsPath other path) (within : ListsPath id rest) :
      ListsPath id (path ++ .punct ',' joined :: rest)

/-- A list of nothing but paths, by their last segments. A comma may follow the last one. -/
inductive SpellsPaths : List Identifier → List Token → Prop where
  | none : SpellsPaths [] []
  | last {id : Identifier} {path : List Token} (spelled : SpellsPath id path) :
      SpellsPaths [id] path
  | more {id : Identifier} {ids : List Identifier} {path rest : List Token} (joined : Bool)
      (spelled : SpellsPath id path) (others : SpellsPaths ids rest) :
      SpellsPaths (id :: ids) (path ++ .punct ',' joined :: rest)

/-- What an attribute derives by a list of nothing but paths. One without a list, and one that is
no derive attribute, derives nothing. -/
inductive Attribute.Lists : Attribute → List Identifier → Prop where
  | paths {attr : Attribute} {delimiter : Delimiter} {content : List Token} {ids : List Identifier}
      (word : attr.path = ⟨[], [.plain "derive"]⟩)
      (argument : attr.argument = .list delimiter content) (spelled : SpellsPaths ids content) :
      attr.Lists ids
  | nothing {attr : Attribute}
      (other : ∀ delimiter content, attr.argument = .list delimiter content →
        attr.path ≠ ⟨[], [.plain "derive"]⟩) :
      attr.Lists []

/-- A derive attribute with a path that has a given last segment. -/
def Attribute.Derives (attr : Attribute) (id : Identifier) : Prop :=
  attr.isWord "derive" ∧
    ∃ delimiter content, attr.argument = .list delimiter content ∧ ListsPath id content

namespace Attribute

variable {id first : Identifier} {path rest tokens : List Token}

theorem lastSegment?_append (spelled : SpellsSegments id path) (ends : continues rest = false) :
    ∃ first others, path = .name first :: others ∧
      lastSegment? first (others ++ rest) = some (id, rest) := by
  induction spelled with
  | last =>
    refine ⟨id, [], rfl, ?_⟩
    rw [List.nil_append]
    unfold lastSegment?
    split
    · cases ends
    · cases ends
    · rfl
  | behind first joined later ih =>
    obtain ⟨second, others, rfl, read⟩ := ih
    exact ⟨first, _, rfl, read⟩

theorem lastSegment?_eq_some (read : lastSegment? first tokens = some (id, rest)) :
    ∃ others, tokens = others ++ rest ∧ SpellsSegments id (.name first :: others) ∧
      continues rest = false := by
  fun_induction lastSegment? first tokens with
  | case1 first joined second later ih =>
    obtain ⟨others, rfl, spelled, ends⟩ := ih read
    exact ⟨.punct ':' true :: .punct ':' joined :: .name second :: others, rfl,
      .behind first joined spelled, ends⟩
  | case2 => cases read
  | case3 first tokens _ ended =>
    cases read
    refine ⟨[], rfl, .last, ?_⟩
    unfold continues
    split
    next joined later _ => exact absurd rfl (ended joined later)
    next => rfl

/-- A path is read up to its end. -/
theorem derivedPath?_append (spelled : SpellsPath id path) (ends : continues rest = false) :
    derivedPath? (path ++ rest) = some (id, rest) := by
  cases spelled with
  | relative segments =>
    obtain ⟨first, others, rfl, read⟩ := lastSegment?_append segments ends
    exact read
  | absolute joined segments =>
    obtain ⟨first, others, rfl, read⟩ := lastSegment?_append segments ends
    exact read

theorem derivedPath?_eq_some (read : derivedPath? tokens = some (id, rest)) :
    ∃ path, tokens = path ++ rest ∧ SpellsPath id path ∧ continues rest = false := by
  unfold derivedPath? at read
  split at read
  next joined first later =>
    obtain ⟨others, rfl, spelled, ends⟩ := lastSegment?_eq_some read
    exact ⟨_, rfl, .absolute joined spelled, ends⟩
  next first later =>
    obtain ⟨others, rfl, spelled, ends⟩ := lastSegment?_eq_some read
    exact ⟨_, rfl, .relative spelled, ends⟩
  next => cases read

/-! ## Lists of paths -/

/-- A path takes some of the fuel, so what follows it is left enough. -/
theorem exists_fuel {fuel : Nat} (spelled : SpellsPath id path)
    (enough : (path ++ rest).length ≤ fuel) :
    ∃ less, fuel = less + 1 ∧ rest.length ≤ less := by
  have positive : 0 < path.length := by
    cases spelled with
    | relative segments => cases segments <;> exact Nat.succ_pos _
    | absolute => exact Nat.succ_pos _
  rw [List.length_append] at enough
  exact ⟨fuel - 1, by omega, by omega⟩

/-- The names of the paths behind a comma, if one comes next. -/
def namesBehind (fuel : Nat) : List Token → List Identifier
  | .punct ',' _ :: later => derivedNames fuel later
  | _ => []

/-- A path in front of a list gives the first name. -/
theorem derivedNames_append (spelled : SpellsPath id path) (ends : continues rest = false)
    (fuel : Nat) :
    derivedNames (fuel + 1) (path ++ rest) = id :: namesBehind fuel rest := by
  rw [derivedNames, derivedPath?_append spelled ends]
  split
  next read => cases read
  next name joined later read =>
    cases read
    rfl
  next name others stops read =>
    cases read
    unfold namesBehind
    split
    next joined later => exact absurd rfl (stops joined later)
    next => rfl

/-- With fuel for every token all paths are read that only paths stand in front of. -/
theorem mem_derivedNames_iff {fuel : Nat} (enough : tokens.length ≤ fuel) :
    id ∈ derivedNames fuel tokens ↔ ListsPath id tokens := by
  constructor
  · intro member
    induction fuel generalizing tokens with
    | zero => cases member
    | succ fuel ih =>
      cases read : derivedPath? tokens with
      | none =>
        rw [derivedNames, read] at member
        cases member
      | some front =>
        obtain ⟨name, rest⟩ := front
        obtain ⟨path, rfl, spelled, ends⟩ := derivedPath?_eq_some read
        rw [derivedNames_append spelled ends, List.mem_cons] at member
        rcases member with rfl | later
        · exact .here spelled ends
        · unfold namesBehind at later
          split at later
          next joined others =>
            obtain ⟨less, same, room⟩ := exists_fuel spelled enough
            cases same
            exact .later joined spelled (ih (Nat.le_of_succ_le room) later)
          next => cases later
  · intro listed
    induction listed generalizing fuel with
    | here spelled ends =>
      obtain ⟨fuel, rfl, -⟩ := exists_fuel spelled enough
      rw [derivedNames_append spelled ends]
      exact List.mem_cons_self
    | later joined spelled within ih =>
      obtain ⟨fuel, rfl, room⟩ := exists_fuel spelled enough
      rw [derivedNames_append spelled rfl]
      exact List.mem_cons_of_mem _ (ih (Nat.le_of_succ_le room))

/-- Of a list of nothing but paths all are read. -/
theorem derivedNames_eq {ids : List Identifier} (spelled : SpellsPaths ids tokens) {fuel : Nat}
    (enough : tokens.length ≤ fuel) : derivedNames fuel tokens = ids := by
  induction spelled generalizing fuel with
  | none => cases fuel <;> rfl
  | @last id path spelled =>
    rw [← List.append_nil path] at enough ⊢
    obtain ⟨fuel, rfl, -⟩ := exists_fuel spelled enough
    exact derivedNames_append spelled rfl fuel
  | more joined spelled others ih =>
    obtain ⟨fuel, rfl, room⟩ := exists_fuel spelled enough
    rw [derivedNames_append spelled rfl]
    exact congrArg _ (ih (Nat.le_of_succ_le room))

/-- The names that are read of an attribute are those it derives. -/
theorem mem_derives_iff (attr : Attribute) (id : Identifier) :
    id ∈ attr.derives ↔ attr.Derives id := by
  unfold derives Derives
  split
  next delimiter content argument =>
    by_cases word : attr.isWord "derive"
    · rw [if_pos word, mem_derivedNames_iff (Nat.le_refl _)]
      constructor
      · exact fun listed => ⟨word, delimiter, content, argument, listed⟩
      · rintro ⟨-, other, tokens, same, listed⟩
        obtain ⟨rfl, rfl⟩ := AttributeArgument.list.inj (argument.symm.trans same)
        exact listed
    · rw [if_neg word]
      exact iff_of_false List.not_mem_nil fun derived => word derived.1
  next other =>
    refine iff_of_false List.not_mem_nil ?_
    rintro ⟨-, delimiter, content, argument, -⟩
    exact other delimiter content argument

theorem isWord_iff {attr : Attribute} {text : String} :
    attr.isWord text ↔ attr.path = ⟨[], [.plain text]⟩ := by
  obtain ⟨⟨separator, segments⟩, argument⟩ := attr
  simp [isWord]

theorem derives_eq {attr : Attribute} {ids : List Identifier} {delimiter : Delimiter}
    (word : attr.isWord "derive") (argument : attr.argument = .list delimiter tokens)
    (spelled : SpellsPaths ids tokens) : attr.derives = ids := by
  unfold derives
  simp only [argument, word, if_true]
  exact derivedNames_eq spelled (Nat.le_refl _)

theorem derives_of_lists {attr : Attribute} {ids : List Identifier} (lists : attr.Lists ids) :
    attr.derives = ids := by
  cases lists with
  | paths word argument spelled => exact derives_eq (isWord_iff.mpr word) argument spelled
  | nothing other =>
    unfold derives
    split
    next delimiter content argument =>
      exact if_neg fun word => other delimiter content argument (isWord_iff.mp word)
    next => rfl

/-- Of attributes with lists of nothing but paths all of them are read. -/
theorem flatMap_derives_of_lists {attributes : List Attribute} {names : List (List Identifier)}
    (lists : List.Forall₂ Lists attributes names) :
    attributes.flatMap derives = names.flatten := by
  induction lists with
  | nil => rfl
  | cons first _ ih => rw [List.flatMap_cons, List.flatten_cons, derives_of_lists first, ih]

end Attribute

/-! ## The attribute that adds derives -/

/-- The path that a derive is added by. -/
def Derive.path : Derive → AttributePath
  | .debug => ⟨[], [.plain "Debug"]⟩
  | .error => ⟨symbolTokens [':', ':'], [.plain "thiserror", .plain "Error"]⟩

/-- The attribute that adds derives, if there are any to add. -/
def addedDerives (derives : List Derive) : List Attribute :=
  if derives.isEmpty then []
  else
    let paths := derives.map fun derive => derive.path.tokens
    [⟨⟨[], [.plain "derive"]⟩, .list .paren (commaSeparated false paths)⟩]

theorem Derive.spellsPath (derive : Derive) : SpellsPath derive.segment derive.path.tokens := by
  cases derive with
  | debug => exact .relative .last
  | error => exact .absolute false (.behind _ false .last)

theorem Derive.texts_path (derive : Derive) :
    ErrorEnum.texts derive.path.tokens = derive.texts := by
  cases derive <;> decide +kernel

theorem spellsPaths_commaSeparated (derives : List Derive) :
    SpellsPaths (derives.map Derive.segment)
      (commaSeparated false (derives.map fun derive => derive.path.tokens)) := by
  induction derives with
  | nil => exact .none
  | cons first rest ih =>
    cases rest with
    | nil => exact .last first.spellsPath
    | cons second others => exact .more false first.spellsPath ih

theorem texts_commaSeparated (parts : List (List Token)) :
    texts (commaSeparated false parts) = [","].intercalate (parts.map texts) := by
  induction parts with
  | nil => rfl
  | cons first rest ih =>
    cases rest with
    | nil => simp [commaSeparated, List.intercalate]
    | cons second others =>
      calc texts (commaSeparated false (first :: second :: others))
        _ = texts first ++ "," :: texts (commaSeparated false (second :: others)) := List.map_append
        _ = texts first ++ "," :: [","].intercalate ((second :: others).map texts) := by rw [ih]
        _ = [","].intercalate ((first :: second :: others).map texts) := by simp [List.intercalate]

theorem texts_wordAttribute (word : String) (content : List Token) :
    texts (Attribute.tokens ⟨⟨[], [.plain word]⟩, .list .paren content⟩) =
      ["#", "[", word, "("] ++ texts content ++ [")", "]"] := by
  simp [texts, Attribute.tokens, Attribute.inBrackets, Reading.bracketed, AttributePath.tokens,
    AttributePath.segmentTokens, Token.text, Identifier.spelling, Identifier.plain]

/-- The attribute is written as it is generated. -/
theorem texts_addedDerives (derives : List Derive) :
    texts ((addedDerives derives).flatMap Attribute.tokens) = deriveTexts derives := by
  unfold addedDerives deriveTexts
  split
  next => rfl
  next =>
    have start : words "# [ derive (" = ["#", "[", "derive", "("] := by decide +kernel
    have ending : words ") ]" = [")", "]"] := by decide +kernel
    have paths : (derives.map fun derive => derive.path.tokens).map texts =
        derives.map Derive.texts := by
      rw [List.map_map]
      exact List.map_congr_left fun derive _ => derive.texts_path
    rw [List.flatMap_singleton, texts_wordAttribute, texts_commaSeparated, paths, start, ending]

/-- The attribute lists nothing but the paths of the derives that it adds. -/
theorem lists_addedDerives (derives : List Derive) :
    ∃ names, List.Forall₂ Attribute.Lists (addedDerives derives) names ∧
      names.flatten = derives.map Derive.segment := by
  unfold addedDerives
  cases derives with
  | nil => exact ⟨[], .nil, rfl⟩
  | cons first rest =>
    refine ⟨[(first :: rest).map Derive.segment], ?_, List.flatten_singleton⟩
    rw [List.isEmpty_cons, if_neg Bool.false_ne_true]
    exact .cons (.paths rfl rfl (spellsPaths_commaSeparated _)) .nil

theorem derives_addedDerives (derives : List Derive) :
    (addedDerives derives).flatMap Attribute.derives = derives.map Derive.segment := by
  obtain ⟨names, lists, same⟩ := lists_addedDerives derives
  rw [Attribute.flatMap_derives_of_lists lists, same]

/-! ## What an enum lacks -/

theorem Derive.segment_injective : Function.Injective Derive.segment := by
  intro first second same
  cases first <;> cases second <;> first | rfl | exact absurd same (by decide)

namespace Enumeration

variable {enumeration : Enumeration} {derive : Derive}

theorem mem_missingDerives :
    derive ∈ enumeration.missingDerives ↔
      derive.segment ∉ enumeration.attributes.flatMap Attribute.derives := by
  cases derive <;> simp [missingDerives]

theorem mem_missingDerives_iff :
    derive ∈ enumeration.missingDerives ↔
      ∀ attr ∈ enumeration.attributes, ¬ attr.Derives derive.segment := by
  simp [mem_missingDerives, Attribute.mem_derives_iff]

/-- With the added attribute in front, what was derived at most once is derived exactly once. -/
theorem count_derives
    (once : (enumeration.attributes.flatMap Attribute.derives).count derive.segment ≤ 1) :
    ((addedDerives enumeration.missingDerives ++ enumeration.attributes).flatMap
      Attribute.derives).count derive.segment = 1 := by
  rw [List.flatMap_append, derives_addedDerives, List.count_append,
    List.count_map_of_injective _ _ Derive.segment_injective]
  by_cases missing : derive ∈ enumeration.missingDerives
  · have distinct : enumeration.missingDerives.Nodup := List.Nodup.filter _ (by decide)
    rw [List.count_eq_one_of_mem distinct missing,
      List.count_eq_zero.mpr (mem_missingDerives.mp missing)]
  · rw [List.count_eq_zero.mpr missing]
    rw [mem_missingDerives, Classical.not_not] at missing
    have present := List.count_pos_iff.mpr missing
    omega

end Enumeration

end IdentityClaims.ErrorEnum
