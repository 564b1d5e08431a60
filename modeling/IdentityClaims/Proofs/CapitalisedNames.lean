import IdentityClaims.Proofs.Lowering
import IdentityClaims.Proofs.MappingEntries
import IdentityClaims.Proofs.Numerals

/-!
# Names told apart by their default paths

The snake case (`to_snake_case`) of a name of ASCII letters and digits that starts with a capital
can be read back: an underscore stands before a capital and nowhere else. So two such names never
share a default path, however many capitals or digits they have in a row.
-/

namespace IdentityClaims.Text

/-- A name of ASCII letters and digits that starts with a capital letter. -/
def CapitalisedName (name : String) : Prop :=
  name.toList.head?.any Char.isUpper ∧ name.toList.all Char.isAlphanum

instance (name : String) : Decidable (CapitalisedName name) :=
  inferInstanceAs (Decidable (_ ∧ _))

/-- Characters without their underscores; a letter after one is capitalised, and so is the first
character where `initial` says so. -/
def capitalise (initial : Bool) : List Char → List Char
  | [] => []
  | c :: rest =>
    if c = '_' then capitalise true rest
    else (if initial then c.toUpper else c) :: capitalise false rest

/-- The name that a key in snake case stands for. -/
def pascalCase (key : String) : String :=
  String.ofList (capitalise true key.toList)

theorem ascii_of_isAlphanum {c : Char} (alphanum : c.isAlphanum) :
    c.toNat < 128 ∧ c ≠ '_' ∧ c.toLower ≠ '_' := by
  have ascii : c.toNat < 128 := by
    simp only [Char.isAlphanum, Char.isAlpha, Bool.or_eq_true] at alphanum
    rcases alphanum with (capital | small) | digit
    · exact Nat.lt_of_le_of_lt (toNat_of_isUpper capital).2 (by decide)
    · exact Nat.lt_of_le_of_lt (toNat_of_isLower small).2 (by decide)
    · exact Nat.lt_of_le_of_lt (Number.toNat_of_isDigit digit).2 (by decide)
  have letters : ∀ n < 128, (Char.ofNat n).isAlphanum →
      Char.ofNat n ≠ '_' ∧ (Char.ofNat n).toLower ≠ '_' := by decide
  have own := letters c.toNat ascii
  rw [Char.ofNat_toNat] at own
  exact ⟨ascii, own alphanum⟩

theorem toUpper_toLower_of_isUpper {c : Char} (capital : c.isUpper) : c.toLower.toUpper = c := by
  rw [Char.toUpper_toLower_eq_toUpper,
    Char.toUpper_eq_of_not_isLower (Char.not_isLower_of_isUpper capital)]

/-- A character after the first one is read back from what it is written as. -/
theorem capitalise_snakeInner {c : Char} (alphanum : c.isAlphanum) (rest : List Char) :
    capitalise false (snakeInner c ++ rest) = c :: capitalise false rest := by
  obtain ⟨ascii, other, otherSmall⟩ := ascii_of_isAlphanum alphanum
  rw [snakeInner, isUppercase_of_ascii ascii, lowercase_of_ascii ascii]
  cases capital : c.isUpper with
  | true => simp [capitalise, otherSmall, toUpper_toLower_of_isUpper capital]
  | false => simp [capitalise, other]

theorem capitalise_flatMap_snakeInner {cs : List Char} (alphanum : ∀ c ∈ cs, c.isAlphanum) :
    capitalise false (cs.flatMap snakeInner) = cs := by
  induction cs with
  | nil => rfl
  | cons c rest ih =>
    obtain ⟨first, later⟩ := List.forall_mem_cons.mp alphanum
    rw [List.flatMap_cons, capitalise_snakeInner first, ih later]

/-- A capitalised name is read back from its snake case. -/
theorem pascalCase_snakeCase {name : String} (capitalised : CapitalisedName name) :
    pascalCase (snakeCase name) = name := by
  obtain ⟨initial, alphanum⟩ := capitalised
  rw [← String.toList_inj, pascalCase, snakeCase, String.toList_ofList, String.toList_ofList]
  cases chars : name.toList with
  | nil => rfl
  | cons c rest =>
    rw [chars] at initial alphanum
    have capital : c.isUpper := initial
    obtain ⟨first, later⟩ := List.forall_mem_cons.mp (List.all_eq_true.mp alphanum)
    obtain ⟨ascii, -, otherSmall⟩ := ascii_of_isAlphanum first
    rw [snakeChars, lowercase_of_ascii ascii, List.singleton_append, capitalise, if_neg otherSmall,
      if_pos rfl, toUpper_toLower_of_isUpper capital, capitalise_flatMap_snakeInner later]

end IdentityClaims.Text

namespace IdentityClaims.Mapping

open Text

/-- Default paths of different capitalised names are different: the names are read back from
them. -/
theorem default_paths_distinct :
    (∀ name, CapitalisedName name → pascalCase (snakeCase name) = name) ∧
    (∀ first second, CapitalisedName first → CapitalisedName second →
      snakeCase first = snakeCase second → first = second) ∧
    (∀ (mapping : Mapping) (first second : String), CapitalisedName first →
      CapitalisedName second → first ≠ second →
      (∀ path, mapping.get? first = some path → path = "") →
      (∀ path, mapping.get? second = some path → path = "") →
        (mapping.choose first).path ≠ (mapping.choose second).path) := by
  have injective : ∀ first second, CapitalisedName first → CapitalisedName second →
      snakeCase first = snakeCase second → first = second := by
    intro first second capitalisedFirst capitalisedSecond same
    rw [← pascalCase_snakeCase capitalisedFirst, same, pascalCase_snakeCase capitalisedSecond]
  refine ⟨fun _ => pascalCase_snakeCase, injective, fun mapping first second capitalisedFirst
    capitalisedSecond different bareFirst bareSecond same => ?_⟩
  rw [choose_of_unconfigured bareFirst, choose_of_unconfigured bareSecond] at same
  exact different (injective first second capitalisedFirst capitalisedSecond same)

/-! The statement at names that differ in their capitals alone, one of them with an empty entry. -/

/-- A mapping with an empty entry and one for another name. -/
def tokenMapping : Mapping :=
  .ofPairs [("OAuth2ID", ""), ("Email", "mail")]

theorem default_paths_distinct_token :
    CapitalisedName "OAuth2ID" ∧ CapitalisedName "Oauth2Id" ∧
      pascalCase (snakeCase "OAuth2ID") = "OAuth2ID" ∧
      (∀ path, tokenMapping.get? "OAuth2ID" = some path → path = "") ∧
      (∀ path, tokenMapping.get? "Oauth2Id" = some path → path = "") ∧
      (tokenMapping.choose "OAuth2ID").path ≠ (tokenMapping.choose "Oauth2Id").path := by
  obtain ⟨restored, -, distinct⟩ := default_paths_distinct
  have first : CapitalisedName "OAuth2ID" := by decide
  have second : CapitalisedName "Oauth2Id" := by decide
  have bareFirst : ∀ path, tokenMapping.get? "OAuth2ID" = some path → path = "" := by
    rintro path ⟨⟩
    rfl
  have bareSecond : ∀ path, tokenMapping.get? "Oauth2Id" = some path → path = "" := by
    rintro path ⟨⟩
  exact ⟨first, second, restored _ first, bareFirst, bareSecond,
    distinct tokenMapping _ _ first second (by decide) bareFirst bareSecond⟩

end IdentityClaims.Mapping
