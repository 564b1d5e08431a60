import IdentityClaims.Proofs.Lowering
import IdentityClaims.Proofs.Pieces
import IdentityClaims.Text.Words

/-!
# Names of words joined by underscores

A name of words of small letters that are joined by single underscores is already what a name is
tidied to. Its characters are clusters of their own, none of them a digit, so that it falls into
words at its underscores and nowhere else.
-/

namespace IdentityClaims.Text

/-- Words over some letters, joined by single underscores. -/
def JoinedWords (letter : Char → Bool) (name : String) : Prop :=
  ∀ word ∈ pieces '_' name, word ≠ "" ∧ word.toList.all letter

instance (letter : Char → Bool) (name : String) : Decidable (JoinedWords letter name) :=
  inferInstanceAs (Decidable (∀ word ∈ pieces '_' name, _))

/-! ## Splitting -/

/-- A split loses nothing but separators. -/
theorem mem_splitChars {separator c : Char} {cs : List Char} (member : c ∈ cs) :
    c = separator ∨ c ∈ (splitChars separator cs).1 ∨
      ∃ piece ∈ (splitChars separator cs).2, c ∈ piece := by
  induction cs with
  | nil => cases member
  | cons first rest ih =>
    by_cases cut : first = separator
    · rcases List.mem_cons.mp member with rfl | later
      · exact .inl cut
      · simpa [splitChars, cut] using ih later
    · rcases List.mem_cons.mp member with rfl | later
      · simp [splitChars, cut]
      · have kept := ih later
        simp only [splitChars, if_neg cut, List.mem_cons]
        grind

/-- Characters may be replaced before or after a split, as long as the separators are the same. -/
theorem splitChars_map {separator : Char} (f : Char → Char) {cs : List Char}
    (same : ∀ c ∈ cs, f c = separator ↔ c = separator) :
    splitChars separator (cs.map f) =
      ((splitChars separator cs).1.map f, (splitChars separator cs).2.map (List.map f)) := by
  induction cs with
  | nil => rfl
  | cons first rest ih =>
    obtain ⟨own, later⟩ := List.forall_mem_cons.mp same
    by_cases cut : first = separator
    · subst cut
      simp [splitChars, ih later, own]
    · have uncut : ¬ f first = separator := fun mapped => cut (own.mp mapped)
      simp [splitChars, ih later, cut, uncut]

theorem splitChars_of_not_mem {separator : Char} {cs : List Char} (free : separator ∉ cs) :
    splitChars separator cs = (cs, []) := by
  induction cs with
  | nil => rfl
  | cons first rest ih =>
    rw [List.mem_cons, not_or] at free
    rw [splitChars, ih free.2]
    exact if_neg (Ne.symm free.1)

/-! ## Characters of joined words -/

namespace JoinedWords

variable {letter : Char → Bool} {name : String}

theorem mem (joined : JoinedWords letter name) {c : Char} (member : c ∈ name.toList) :
    c = '_' ∨ letter c := by
  have split : c = '_' ∨ c ∈ (splitChars '_' name.toList).1 ∨
      ∃ piece ∈ (splitChars '_' name.toList).2, c ∈ piece := mem_splitChars member
  rcases split with underscore | first | ⟨piece, among, inside⟩
  · exact .inl underscore
  · right
    apply List.all_eq_true.mp (joined _ List.mem_cons_self).2
    simpa using first
  · right
    have letters := (joined (String.ofList piece)
      (List.mem_cons_of_mem _ (List.mem_map_of_mem among))).2
    apply List.all_eq_true.mp letters
    simpa using inside

theorem empty_not_mem (joined : JoinedWords letter name) : "" ∉ pieces '_' name :=
  fun member => (joined "" member).1 rfl

/-- Small letters in place of capital ones, with the underscores where they were. -/
theorem toLower_eq_underscore_iff (joined : JoinedWords Char.isUpper name) :
    ∀ c ∈ name.toList, c.toLower = '_' ↔ c = '_' := by
  intro c member
  rcases joined.mem member with rfl | capital
  · decide
  · have small : c.toLower.isLower := by simp [Char.isAlpha, capital]
    constructor
    · intro underscore
      rw [underscore] at small
      cases small
    · rintro rfl
      cases capital

/-- Words of capital letters become words of small letters. -/
theorem toLower (joined : JoinedWords Char.isUpper name) :
    JoinedWords Char.isLower name.toLower := by
  have lowered : pieces '_' name.toLower = (pieces '_' name).map String.toLower := by
    rw [pieces, toList_toLower, splitChars_map _ joined.toLower_eq_underscore_iff, pieces]
    simp [toList_toLower, ← String.toList_inj]
  intro word member
  rw [lowered] at member
  obtain ⟨capitals, among, rfl⟩ := List.mem_map.mp member
  obtain ⟨nonempty, letters⟩ := joined capitals among
  rw [Ne, ← String.toList_eq_nil_iff, toList_toLower, List.map_eq_nil_iff,
    String.toList_eq_nil_iff, List.all_map, List.all_eq_true]
  refine ⟨nonempty, fun c inside => ?_⟩
  have capital : c.isUpper := List.all_eq_true.mp letters c inside
  simp [Char.isAlpha, capital]

/-- Names of capital letters are told apart by their small letters. -/
theorem toLower_injective {other : String} (joined : JoinedWords Char.isUpper name)
    (joinedOther : JoinedWords Char.isUpper other) (same : name.toLower = other.toLower) :
    name = other := by
  have restored : ∀ text : String, JoinedWords Char.isUpper text →
      text.toLower.toList.map Char.toUpper = text.toList := by
    intro text capitals
    have kept : ∀ c ∈ text.toList, (Char.toUpper ∘ Char.toLower) c = id c := by
      intro c member
      rcases capitals.mem member with rfl | capital
      · rfl
      · simp [Char.toUpper_eq_of_not_isLower (Char.not_isLower_of_isUpper capital)]
    rw [toList_toLower, List.map_map, List.map_congr_left kept, List.map_id]
  rw [← String.toList_inj, ← restored name joined, same, restored other joinedOther]

end JoinedWords

/-! ## Clusters and words -/

theorem joining_of_ascii {c : Char} (printed : 32 ≤ c.toNat) (ascii : c.toNat < 127) :
    Joining.ofChar c = .other := by
  have codes : ∀ n < 127, 32 ≤ n → Joining.ofCode n = .other := by decide +kernel
  exact codes c.toNat ascii printed

/-- Characters that join nothing are clusters of their own. -/
theorem clusters_of_other {cs : List Char} (plain : ∀ c ∈ cs, Joining.ofChar c = .other) :
    clusters cs = cs.map ([·]) := by
  -- The cluster that is being collected never gets a second character, so its one character is
  -- whatever came last.
  have alone : ∀ first, Joining.ofChar first = .other → ∀ rest : List Char,
      (∀ c ∈ rest, Joining.ofChar c = .other) →
        clustersFrom [first] rest = [first] :: rest.map ([·]) := by
    intro first plainFirst rest plainRest
    induction rest generalizing first with
    | nil => rfl
    | cons c later ih =>
      obtain ⟨own, others⟩ := List.forall_mem_cons.mp plainRest
      have feed : c ≠ '\n' := by
        rintro rfl
        cases own
      have apart : takesIn [first] c = false := by
        simp [takesIn, feed, plainFirst, own, continues]
      rw [clustersFrom, apart, ih c own others]
      rfl
  cases cs with
  | nil => rfl
  | cons first rest =>
    obtain ⟨own, others⟩ := List.forall_mem_cons.mp plain
    exact alone first own rest others

/-- A letter or an underscore is no digit, so no word ends beside it but at the underscore. -/
theorem isDigitCluster_of_letter {c : Char} (letter : c = '_' ∨ c.isLower) :
    isDigitCluster [c] = false := by
  rcases letter with rfl | small
  · rfl
  · have range := toNat_of_isLower small
    have outside : ¬ (48 ≤ c.toNat ∧ c.toNat ≤ 57) := by omega
    simpa [isDigitCluster, Char.isDigit, UInt32.le_iff_toNat_le] using outside

theorem isWordBreak_of_letter {c : Char} (letter : c = '_' ∨ c.isLower) :
    isWordBreak [c] = decide (c = '_') := by
  rcases letter with rfl | small
  · rfl
  · have other : ∀ sign : Char, sign.isLower = false → c ≠ sign := by
      rintro sign none rfl
      rw [small] at none
      cases none
    simp [isWordBreak, other '_' rfl, other '-' rfl, other ' ' rfl]

/-- Without digits a name falls into words at its underscores alone. -/
theorem wordPieces_of_letters {cs : List Char} (letters : ∀ c ∈ cs, c = '_' ∨ c.isLower) :
    wordPieces (cs.map ([·])) = splitChars '_' cs := by
  induction cs with
  | nil => rfl
  | cons c rest ih =>
    obtain ⟨own, later⟩ := List.forall_mem_cons.mp letters
    have together : (rest.map ([·])).head?.any (partsWords [c]) = false := by
      cases rest with
      | nil => rfl
      | cons next _ =>
        have digitless := isDigitCluster_of_letter (later next List.mem_cons_self)
        simp [partsWords, isDigitCluster_of_letter own, digitless]
    rw [List.map_cons, wordPieces, ih later, splitChars, isWordBreak_of_letter own, together]
    by_cases cut : c = '_' <;> simp [cut]

/-- Words of small letters joined by single underscores are tidied already. -/
theorem underscored_of_joinedWords {name : String} (joined : JoinedWords Char.isLower name) :
    underscored name.toList = name.toList := by
  have plain : ∀ c ∈ name.toList, Joining.ofChar c = .other := by
    intro c member
    rcases joined.mem member with rfl | small
    · exact joining_of_ascii (by decide) (by decide)
    · have range := toNat_of_isLower small
      exact joining_of_ascii (by omega) (by omega)
  have split : words name.toList = (name.toList.splitOn '_').filter (· ≠ []) := by
    rw [words, clusters_of_other plain, wordPieces_of_letters fun c member => joined.mem member,
      ← splitChars_eq_splitOn]
  have full : ∀ word ∈ name.toList.splitOn '_', decide (word ≠ []) = true := by
    intro word member
    have piece : String.ofList word ∈ pieces '_' name := by
      rw [pieces_eq_splitOn]
      exact List.mem_map_of_mem member
    simpa using (joined _ piece).1
  rw [underscored, split, List.filter_eq_self.mpr full, List.intercalate_splitOn]

end IdentityClaims.Text
