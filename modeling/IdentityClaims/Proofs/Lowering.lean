import IdentityClaims.Proofs.SnakeCase
import IdentityClaims.Text.Lowercase
import Mathlib

/-!
# Lowering of ASCII texts

No ASCII character is a titlecase letter or a sigma, so an ASCII text is lowered one character at
a time, each without its neighbours. Capital letters become small letters, and different ones
different letters.
-/

namespace IdentityClaims.Text

/-! ## Letters -/

theorem toNat_of_isUpper {c : Char} (capital : c.isUpper) : 65 ≤ c.toNat ∧ c.toNat ≤ 90 := by
  simpa [Char.isUpper, UInt32.le_iff_toNat_le] using capital

theorem toNat_of_isLower {c : Char} (small : c.isLower) : 97 ≤ c.toNat ∧ c.toNat ≤ 122 := by
  simpa [Char.isLower, UInt32.le_iff_toNat_le] using small

/-! ## Texts -/

theorem toList_toLower (text : String) : text.toLower.toList = text.toList.map Char.toLower :=
  String.toList_map

theorem lowerLetter_of_ascii {c : Char} (ascii : c.toNat < 128) : lowerLetter c = [c.toLower] := by
  have beyond : ∀ run ∈ titlecaseRuns, 128 ≤ run.first := by decide
  have plain : titlecaseRuns.find? (·.contains c.toNat) = none := by
    apply List.find?_eq_none.mpr
    intro run member
    have before : ¬ run.first ≤ c.toNat := by
      have later := beyond run member
      omega
    simp [CaseRun.contains, before]
  unfold lowerLetter
  rw [plain]
  exact lowercase_of_ascii ascii

theorem lowerAfter_of_ascii (before : List Char) {cs : List Char}
    (ascii : ∀ c ∈ cs, c.toNat < 128) : lowerAfter before cs = cs.map Char.toLower := by
  induction cs generalizing before with
  | nil => rfl
  | cons c rest ih =>
    obtain ⟨first, later⟩ := List.forall_mem_cons.mp ascii
    have other : c ≠ 'Σ' := by
      rintro rfl
      exact absurd first (by decide)
    rw [lowerAfter, if_neg other, lowerLetter_of_ascii first, ih _ later]
    rfl

/-- An ASCII text is lowered character by character. -/
theorem lowerText_of_ascii {text : String} (ascii : ∀ c ∈ text.toList, c.toNat < 128) :
    lowerText text = text.toLower := by
  rw [lowerText, lowerAfter_of_ascii [] ascii, ← String.toList_inj, String.toList_ofList,
    toList_toLower]

end IdentityClaims.Text
