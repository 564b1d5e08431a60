import IdentityClaims.Claim.Basic
import IdentityClaims.Text.SnakeCase

/-!
# Snake case of logical names

On ASCII the uppercase characters are the capital letters, and each is lowered to its small letter.
So `to_snake_case` makes of the name of every standard claim the field of the claim.
-/

namespace IdentityClaims.Text

/-- Among the ASCII characters only the run of the capital letters matters. -/
theorem uppercaseRun?_of_ascii {code : Nat} (ascii : code < 128) :
    uppercaseRun? code =
      if 65 ≤ code ∧ code ≤ 90 then some ⟨0x41, 0x5A, 1, 32⟩ else none := by
  have split : uppercaseRuns = ⟨0x41, 0x5A, 1, 32⟩ :: uppercaseRuns.tail := rfl
  have beyond : ∀ run ∈ uppercaseRuns.tail, 128 ≤ run.first := by decide +kernel
  have none_later : uppercaseRuns.tail.find? (·.contains code) = none := by
    apply List.find?_eq_none.mpr
    intro run member
    have before : ¬ run.first ≤ code := by
      have later := beyond run member
      omega
    simp [CaseRun.contains, before]
  unfold uppercaseRun?
  rw [split, List.find?_cons, none_later]
  by_cases capital : 65 ≤ code ∧ code ≤ 90
  · simp [CaseRun.contains, capital, Nat.mod_one]
  · have outside : CaseRun.contains ⟨0x41, 0x5A, 1, 32⟩ code = false := by
      simp only [CaseRun.contains, Bool.and_eq_false_iff, decide_eq_false_iff_not]
      omega
    rw [outside, if_neg capital]

theorem ne_dottedCapitalI_of_ascii {c : Char} (ascii : c.toNat < 128) : c ≠ dottedCapitalI := by
  rintro rfl
  exact absurd ascii (by decide)

theorem isUpper_iff_of_ascii {c : Char} (ascii : c.toNat < 128) :
    c.isUpper ↔ 65 ≤ c.toNat ∧ c.toNat ≤ 90 := by
  have letters : ∀ n < 128, (Char.ofNat n).isUpper ↔ 65 ≤ n ∧ n ≤ 90 := by decide
  have own := letters c.toNat ascii
  rwa [Char.ofNat_toNat] at own

theorem toLower_of_ascii {c : Char} (ascii : c.toNat < 128) :
    c.toLower = if 65 ≤ c.toNat ∧ c.toNat ≤ 90 then Char.ofNat (c.toNat + 32) else c := by
  have letters : ∀ n < 128, (Char.ofNat n).toLower =
      if 65 ≤ n ∧ n ≤ 90 then Char.ofNat (n + 32) else Char.ofNat n := by decide
  have own := letters c.toNat ascii
  rwa [Char.ofNat_toNat] at own

theorem isUppercase_of_ascii {c : Char} (ascii : c.toNat < 128) : isUppercase c = c.isUpper := by
  have plain := ne_dottedCapitalI_of_ascii ascii
  rw [Bool.eq_iff_iff, isUpper_iff_of_ascii ascii]
  unfold isUppercase
  rw [uppercaseRun?_of_ascii ascii]
  by_cases capital : 65 ≤ c.toNat ∧ c.toNat ≤ 90 <;> simp [plain, capital]

theorem lowercase_of_ascii {c : Char} (ascii : c.toNat < 128) : lowercase c = [c.toLower] := by
  unfold lowercase
  rw [if_neg (ne_dottedCapitalI_of_ascii ascii), uppercaseRun?_of_ascii ascii,
    toLower_of_ascii ascii]
  by_cases capital : 65 ≤ c.toNat ∧ c.toNat ≤ 90
  · have shifted : ((c.toNat : Int) + 32).toNat = c.toNat + 32 := by omega
    rw [if_pos capital, if_pos capital]
    simp [CaseRun.lower, shifted]
  · rw [if_neg capital, if_neg capital]

/-- Snake case of an ASCII name, which needs no table of characters. -/
theorem snakeCase_of_ascii {name : String} (ascii : name.toList.all fun c => c.toNat < 128) :
    snakeCase name = String.ofList
      (match name.toList with
      | [] => []
      | c :: rest =>
        c.toLower :: rest.flatMap fun c => if c.isUpper then ['_', c.toLower] else [c]) := by
  have inner : ∀ cs : List Char, (∀ c ∈ cs, c.toNat < 128) →
      cs.flatMap snakeInner =
        cs.flatMap fun c => if c.isUpper then ['_', c.toLower] else [c] := by
    intro cs small
    rw [List.flatMap_def, List.flatMap_def]
    congr 1
    apply List.map_congr_left
    intro c member
    rw [snakeInner, isUppercase_of_ascii (small c member), lowercase_of_ascii (small c member)]
  unfold snakeCase
  cases chars : name.toList with
  | nil => rfl
  | cons c rest =>
    rw [chars] at ascii
    obtain ⟨first, others⟩ := List.forall_mem_cons.mp (List.all_eq_true.mp ascii)
    have small : ∀ c ∈ rest, c.toNat < 128 := fun c member => of_decide_eq_true (others c member)
    rw [snakeChars, lowercase_of_ascii (of_decide_eq_true first), inner rest small]
    rfl

end IdentityClaims.Text

namespace IdentityClaims.Claim

/-- The name of a claim in snake case is the claim's field. -/
theorem snakeCase_logicalName (claim : Claim) :
    Text.snakeCase claim.logicalName = claim.field := by
  cases claim <;> rw [Text.snakeCase_of_ascii (by decide)] <;> rfl

theorem isSegment_field (claim : Claim) : IsSegment claim.field := by
  cases claim <;> exact ⟨by decide, by decide⟩

/-- Fields tell claims apart. -/
theorem ofField?_eq_some_iff (field : String) (claim : Claim) :
    ofField? field = some claim ↔ claim.field = field := by
  constructor
  · intro found
    simpa using List.find?_some found
  · rintro rfl
    cases claim <;> decide

end IdentityClaims.Claim
