import IdentityClaims.Proofs.LoneCapitals
import Mathlib.Algebra.Ring.Nat

/-!
# What snake case inserts

By `to_snake_case` an underscore is written for every uppercase character but a first one, and
lowering writes none. So the underscores and the length of a text in snake case are counted off from
the name. What a character is written as does not depend on the characters before it, apart from
there being any.
-/

namespace IdentityClaims.Text

/-- The number of characters that a character is lowered to. -/
def loweredLength (c : Char) : Nat :=
  if isUppercase c then (lowercase c).length else 1

/-- What a text is written as behind other characters. -/
def snakeBehind (text : String) : String :=
  String.ofList (text.toList.flatMap snakeInner)

/-! ## One character -/

theorem length_lowercase (c : Char) : (lowercase c).length = loweredLength c := by
  unfold loweredLength
  cases upper : isUppercase c with
  | false => rw [lowercase_of_not_uppercase upper]; rfl
  | true => rfl

theorem length_snakeInner (c : Char) :
    (snakeInner c).length = (if isUppercase c then 1 else 0) + loweredLength c := by
  unfold snakeInner
  cases upper : isUppercase c with
  | false => simp [loweredLength, upper]
  | true => simp [← length_lowercase, Nat.add_comm]

/-- Lowering writes no underscore of its own. -/
theorem count_underscore_lowercase (c : Char) :
    (lowercase c).count '_' = if c = '_' then 1 else 0 := by
  by_cases mark : c = '_'
  · rw [mark, lowercase_of_ascii (by decide)]
    decide
  · rw [if_neg mark, List.count_eq_zero]
    exact mark_not_mem_lowercase (by decide) mark

theorem count_underscore_snakeInner (c : Char) :
    (snakeInner c).count '_' = (if c = '_' then 1 else 0) + if isUppercase c then 1 else 0 := by
  unfold snakeInner
  cases upper : isUppercase c with
  | false =>
    rw [← lowercase_of_not_uppercase upper]
    exact count_underscore_lowercase c
  | true => simp [count_underscore_lowercase]

/-- Lowering leaves an uppercase character only where it keeps a lone capital. -/
theorem mem_lowercase_iff_of_uppercase {small : Char} (upper : isUppercase small) (c : Char) :
    small ∈ lowercase c ↔ small = c ∧ isLoneCapital small := by
  constructor
  · intro member
    have lone := isUppercase_of_mem_lowercase member
    rw [upper] at lone
    rw [lowercase_of_lone lone.symm, List.mem_singleton] at member
    exact ⟨member, member ▸ lone.symm⟩
  · rintro ⟨rfl, lone⟩
    rw [lowercase_of_lone lone]
    exact List.mem_singleton_self small

theorem mem_snakeInner_iff_of_uppercase {small : Char} (upper : isUppercase small) (c : Char) :
    small ∈ snakeInner c ↔ small = c ∧ isLoneCapital small := by
  have letter : small ≠ '_' := by
    rintro rfl
    rw [isUppercase_of_ascii (by decide)] at upper
    exact absurd upper (by decide)
  rw [← mem_lowercase_iff_of_uppercase upper]
  unfold snakeInner
  cases other : isUppercase c with
  | false => rw [lowercase_of_not_uppercase other]; rfl
  | true => simp [letter]

/-! ## Characters behind the first one -/

theorem count_underscore_flatMap_snakeInner (cs : List Char) :
    (cs.flatMap snakeInner).count '_' = cs.count '_' + cs.countP isUppercase := by
  induction cs with
  | nil => rfl
  | cons c rest ih =>
    rw [List.flatMap_cons, List.count_append, ih, count_underscore_snakeInner, List.count_cons,
      List.countP_cons]
    simp only [beq_iff_eq]
    omega

theorem length_flatMap_snakeInner (cs : List Char) :
    (cs.flatMap snakeInner).length = cs.countP isUppercase + (cs.map loweredLength).sum := by
  induction cs with
  | nil => rfl
  | cons c rest ih =>
    rw [List.flatMap_cons, List.length_append, ih, length_snakeInner, List.countP_cons,
      List.map_cons, List.sum_cons]
    omega

/-! ## Whole texts -/

theorem count_underscore_snakeChars (cs : List Char) :
    (snakeChars cs).count '_' = cs.count '_' + cs.tail.countP isUppercase := by
  cases cs with
  | nil => rfl
  | cons c rest =>
    rw [snakeChars, List.count_append, count_underscore_lowercase,
      count_underscore_flatMap_snakeInner, List.count_cons, List.tail_cons]
    simp only [beq_iff_eq]
    omega

theorem length_snakeChars (cs : List Char) :
    (snakeChars cs).length = cs.tail.countP isUppercase + (cs.map loweredLength).sum := by
  cases cs with
  | nil => rfl
  | cons c rest =>
    rw [snakeChars, List.length_append, length_lowercase, length_flatMap_snakeInner, List.tail_cons,
      List.map_cons, List.sum_cons]
    omega

theorem mem_snakeChars_iff_of_uppercase {small : Char} (upper : isUppercase small)
    (cs : List Char) : small ∈ snakeChars cs ↔ small ∈ cs ∧ isLoneCapital small := by
  cases cs with
  | nil => simp [snakeChars]
  | cons c rest =>
    rw [snakeChars, List.mem_append, mem_lowercase_iff_of_uppercase upper, List.mem_flatMap]
    simp only [mem_snakeInner_iff_of_uppercase upper, List.mem_cons]
    grind

/-- Behind other characters a text is always written the same. -/
theorem snakeChars_append {cs : List Char} (nonempty : cs ≠ []) (others : List Char) :
    snakeChars (cs ++ others) = snakeChars cs ++ others.flatMap snakeInner := by
  cases cs with
  | nil => exact absurd rfl nonempty
  | cons c rest => simp [snakeChars]

/-- The underscores of a text in snake case are those of the name and one for each uppercase
character behind its first one. So many characters are inserted; the others are what the characters
of the name are lowered to. Uppercase are among them exactly those of the name that have no small
letter. What is written for a text behind another one that has characters depends on that text
alone. -/
theorem snakeCase_inserts :
    (∀ name : String,
      (snakeCase name).toList.count '_' =
        name.toList.count '_' + name.toList.tail.countP isUppercase ∧
      (snakeCase name).length =
        name.toList.tail.countP isUppercase + (name.toList.map loweredLength).sum ∧
      ∀ c, (c ∈ (snakeCase name).toList ∧ isUppercase c) ↔ c ∈ name.toList ∧ isLoneCapital c) ∧
    ∀ first rest : String, first ≠ "" →
      snakeCase (first ++ rest) = snakeCase first ++ snakeBehind rest := by
  have written : ∀ name : String, (snakeCase name).toList = snakeChars name.toList :=
    fun name => String.toList_ofList
  refine ⟨fun name => ⟨?_, ?_, fun c => ?_⟩, fun first rest nonempty => ?_⟩
  · rw [written, count_underscore_snakeChars]
  · rw [← String.length_toList, written, length_snakeChars]
  · rw [written]
    constructor
    · rintro ⟨member, upper⟩
      exact (mem_snakeChars_iff_of_uppercase upper _).mp member
    · rintro ⟨member, lone⟩
      have upper : isUppercase c = true := (Bool.and_eq_true_iff.mp lone).1
      exact ⟨(mem_snakeChars_iff_of_uppercase upper _).mpr ⟨member, lone⟩, upper⟩
  · have characters : first.toList ≠ [] := by simpa using nonempty
    rw [← String.toList_inj, written, String.toList_append, snakeChars_append characters,
      String.toList_append, written, snakeBehind, String.toList_ofList]

/-- A name with an underscore, a letter that is lowered to two and a lone capital, behind another
one. -/
theorem snakeCase_inserts_dotted :
    (snakeCase "Aİ_𝐀b").toList.count '_' = 3 ∧ (snakeCase "Aİ_𝐀b").length = 8 ∧
      ('𝐀' ∈ (snakeCase "Aİ_𝐀b").toList ∧ isUppercase '𝐀') ∧
      snakeCase ("Aİ" ++ "_𝐀b") = snakeCase "Aİ" ++ snakeBehind "_𝐀b" := by
  obtain ⟨own, behind⟩ := snakeCase_inserts
  obtain ⟨underscores, length, capitals⟩ := own "Aİ_𝐀b"
  refine ⟨?_, ?_, (capitals '𝐀').mpr (by decide +kernel), behind _ _ (by decide)⟩
  · rw [underscores]
    decide +kernel
  · rw [length]
    decide +kernel

end IdentityClaims.Text
