import IdentityClaims.Proofs.SnakeCase

/-!
# Capitals without a small letter

Lowering leads out of the uppercase characters, unless it leads nowhere: some uppercase characters,
the bold capitals of mathematics among them, are their own lowercase mapping. Snake case
(`to_snake_case`) keeps such a capital, with an underscore before it, and so a second pass sets it
off once more. Nothing else in a text in snake case is changed by a second pass.
-/

namespace IdentityClaims.Text

/-- An uppercase character that is its own lowercase mapping. -/
def isLoneCapital (c : Char) : Bool :=
  isUppercase c && lowercase c == [c]

theorem lowercase_of_lone {c : Char} (lone : isLoneCapital c = true) : lowercase c = [c] := by
  simp only [isLoneCapital, Bool.and_eq_true, beq_iff_eq] at lone
  exact lone.2

/-! ## Where the runs of uppercase characters lead -/

/-- The runs of all uppercase characters. -/
def capitalRuns : List CaseRun :=
  ⟨0x130, 0x130, 1, 0⟩ :: uppercaseRuns

namespace CaseRun

/-- The code point that a member of a run is lowered to. -/
def target (run : CaseRun) (code : Nat) : Nat :=
  ((code : Int) + run.shift).toNat

/-- A member is lowered to its target; a number that is no code point stands for the null
character. -/
theorem toNat_lower (run : CaseRun) (code : Nat) :
    (run.lower code).toNat = run.target code ∨ (run.lower code).toNat = 0 := by
  rw [lower, ← target, Char.ofNat]
  by_cases valid : (run.target code).isValidChar
  · rw [dif_pos valid]
    exact .inl rfl
  · rw [dif_neg valid]
    exact .inr rfl

/-- Whether a run is seen to have no member among the numbers from `first` to `last` in steps of
`stride`: it lies before them, behind them or between them. -/
def avoids (run : CaseRun) (stride first last : Nat) : Bool :=
  Nat.blt run.last first || Nat.blt last run.first ||
    (stride == 2 && run.stride == 2 && (first + run.first) % 2 == 1)

theorem contains_of_avoids {run : CaseRun} {stride first last n : Nat}
    (avoids : run.avoids stride first last) (from_first : first ≤ n) (to_last : n ≤ last)
    (in_step : stride = 2 → n % 2 = first % 2) : run.contains n = false := by
  simp only [CaseRun.avoids, Bool.or_eq_true, Bool.and_eq_true, Nat.blt_eq, beq_iff_eq] at avoids
  simp only [contains, Bool.and_eq_false_iff, decide_eq_false_iff_not, beq_eq_false_iff_ne]
  rcases avoids with (behind | before) | ⟨⟨own, other⟩, odd⟩
  · omega
  · omega
  · have parity := in_step own
    rw [other]
    omega

/-- The targets of the members of a run lie between those of its ends, in the steps of the run. -/
theorem target_bounds {run : CaseRun} {code : Nat} (member : run.contains code)
    (start : 0 ≤ (run.first : Int) + run.shift) :
    run.target run.first ≤ run.target code ∧ run.target code ≤ run.target run.last ∧
      (run.stride = 2 → run.target code % 2 = run.target run.first % 2) := by
  simp only [contains, Bool.and_eq_true, decide_eq_true_eq, beq_iff_eq] at member
  obtain ⟨⟨from_first, to_last⟩, step⟩ := member
  unfold target
  refine ⟨by omega, by omega, fun two => ?_⟩
  rw [two] at step
  omega

/-- Every run with small letters leads out of all runs. -/
theorem target_avoided :
    ∀ run ∈ uppercaseRuns, run.shift = 0 ∨ (0 ≤ (run.first : Int) + run.shift ∧
      capitalRuns.all fun other =>
        other.avoids run.stride (run.target run.first) (run.target run.last)) := by
  decide +kernel

end CaseRun

theorem eq_dottedCapitalI_iff (c : Char) :
    c = dottedCapitalI ↔ CaseRun.contains ⟨0x130, 0x130, 1, 0⟩ c.toNat := by
  have code : dottedCapitalI.toNat = 0x130 := by decide
  rw [← Char.toNat_inj, code]
  simp only [CaseRun.contains, Bool.and_eq_true, decide_eq_true_eq, beq_iff_eq, Nat.mod_one,
    and_true]
  omega

theorem isUppercase_iff (c : Char) :
    isUppercase c ↔ ∃ run ∈ capitalRuns, run.contains c.toNat := by
  simp [isUppercase, uppercaseRun?, capitalRuns, eq_dottedCapitalI_iff]

/-- The dot that the capital I with a dot above leaves behind. -/
def combiningDot : Char := Char.ofNat 0x307

theorem isUppercase_combiningDot : isUppercase combiningDot = false := by
  have outside : ∀ run ∈ capitalRuns, run.contains 0x307 = false := by decide +kernel
  have code : combiningDot.toNat = 0x307 := by decide
  refine Bool.eq_false_iff.mpr fun upper => ?_
  obtain ⟨run, listed, holds⟩ := (isUppercase_iff _).mp upper
  rw [code, outside run listed] at holds
  cases holds

/-- A run either keeps its members or lowers each to a character that is not uppercase. -/
theorem CaseRun.lower_cases {run : CaseRun} (listed : run ∈ uppercaseRuns) {c : Char}
    (member : run.contains c.toNat) :
    run.lower c.toNat = c ∨ isUppercase (run.lower c.toNat) = false := by
  rcases target_avoided run listed with kept | ⟨start, avoided⟩
  · refine .inl ?_
    rw [lower, kept, Int.add_zero, Int.toNat_natCast, Char.ofNat_toNat]
  · refine .inr (Bool.eq_false_iff.mpr fun upper => ?_)
    obtain ⟨other, capital, holds⟩ := (isUppercase_iff _).mp upper
    have positive : ∀ run ∈ capitalRuns, 0 < run.first := by decide +kernel
    obtain ⟨from_first, to_last, in_step⟩ := target_bounds member start
    rcases run.toNat_lower c.toNat with moved | null
    · rw [moved] at holds
      have outside := contains_of_avoids (List.all_eq_true.mp avoided other capital) from_first
        to_last in_step
      exact absurd holds (Bool.eq_false_iff.mp outside)
    · -- The null character has no case.
      rw [null] at holds
      have first := positive other capital
      simp only [contains, Bool.and_eq_true, decide_eq_true_eq] at holds
      omega

/-! ## Marks -/

/-- No uppercase character is lowered to an ASCII character in front of the letter `a`. -/
theorem CaseRun.target_start :
    ∀ run ∈ uppercaseRuns, 0x61 ≤ (run.first : Int) + run.shift := by
  decide +kernel

theorem CaseRun.lower_ne_mark {run : CaseRun} (listed : run ∈ uppercaseRuns) {code : Nat}
    (member : run.contains code) {mark : Char} (low : 0 < mark.toNat ∧ mark.toNat < 0x61) :
    run.lower code ≠ mark := by
  have start := target_start run listed
  simp only [contains, Bool.and_eq_true, decide_eq_true_eq] at member
  rintro rfl
  rcases run.toNat_lower code with moved | null
  · rw [moved, target] at low
    omega
  · omega

/-- Such a mark is lowered to by no other character. -/
theorem mark_not_mem_lowercase {mark c : Char} (low : 0 < mark.toNat ∧ mark.toNat < 0x61)
    (other : c ≠ mark) : mark ∉ lowercase c := by
  unfold lowercase
  split
  · intro member
    rw [List.mem_cons, List.mem_singleton] at member
    rcases member with rfl | rfl
    · exact absurd low.2 (by decide)
    · exact absurd low.2 (by decide)
  · cases found : uppercaseRun? c.toNat with
    | none => exact mt List.mem_singleton.mp (Ne.symm other)
    | some run =>
      have holds : run.contains c.toNat := by simpa using List.find?_some found
      have moved := CaseRun.lower_ne_mark (List.mem_of_find?_eq_some found) holds low
      exact mt List.mem_singleton.mp (Ne.symm moved)

/-! ## Lowering twice -/

theorem lowercase_ne_nil (c : Char) : lowercase c ≠ [] := by
  unfold lowercase
  split
  · exact List.cons_ne_nil _ _
  · split <;> exact List.cons_ne_nil _ _

theorem lowercase_of_not_uppercase {c : Char} (other : isUppercase c = false) :
    lowercase c = [c] := by
  simp only [isUppercase, Bool.or_eq_false_iff, beq_eq_false_iff_ne, Option.isSome_eq_false_iff,
    Option.isNone_iff_eq_none] at other
  unfold lowercase
  rw [if_neg other.1, other.2]

/-- Lowering leaves no uppercase character but a lone capital, which it keeps. -/
theorem isUppercase_of_mem_lowercase {c small : Char} (member : small ∈ lowercase c) :
    isUppercase small = isLoneCapital c := by
  cases upper : isUppercase c with
  | false =>
    rw [lowercase_of_not_uppercase upper, List.mem_singleton] at member
    rw [member, upper, isLoneCapital, upper, Bool.false_and]
  | true =>
    by_cases dotted : c = dottedCapitalI
    · have letters : lowercase c = ['i', combiningDot] := if_pos dotted
      have paired : isLoneCapital c = false := by simp [isLoneCapital, letters]
      rw [letters, List.mem_cons, List.mem_singleton] at member
      rw [paired]
      rcases member with rfl | rfl
      · exact isUppercase_of_ascii (by decide)
      · exact isUppercase_combiningDot
    · obtain ⟨run, found⟩ : ∃ run, uppercaseRun? c.toNat = some run := by
        simpa [isUppercase, dotted, Option.isSome_iff_exists] using upper
      have lowered : lowercase c = [run.lower c.toNat] := by
        rw [lowercase, if_neg dotted, found]
      rw [lowered, List.mem_singleton] at member
      rw [member, isLoneCapital, upper, lowered, Bool.true_and]
      have holds : run.contains c.toNat := by simpa using List.find?_some found
      rcases CaseRun.lower_cases (List.mem_of_find?_eq_some found) holds with kept | other
      · rw [kept, upper, beq_self_eq_true]
      · have moved : run.lower c.toNat ≠ c := by
          rintro kept
          rw [kept, upper] at other
          cases other
        rw [other, eq_comm, beq_eq_false_iff_ne]
        simpa using moved

/-- Lowered characters are lowered to themselves. -/
theorem lowercase_of_mem_lowercase {c small : Char} (member : small ∈ lowercase c) :
    lowercase small = [small] := by
  cases lone : isLoneCapital c with
  | false => exact lowercase_of_not_uppercase ((isUppercase_of_mem_lowercase member).trans lone)
  | true =>
    rw [lowercase_of_lone lone, List.mem_singleton] at member
    rw [member, lowercase_of_lone lone]

/-! ## Snake case twice -/

/-- What two passes make of a character after the first one. -/
def snakeInnerTwice (c : Char) : List Char :=
  if isLoneCapital c then ['_', '_', c] else snakeInner c

theorem snakeInner_of_not_uppercase {c : Char} (other : isUppercase c = false) :
    snakeInner c = [c] := by
  rw [snakeInner, other]
  rfl

theorem flatMap_snakeInner_of_not_uppercase {cs : List Char}
    (others : ∀ c ∈ cs, isUppercase c = false) : cs.flatMap snakeInner = cs := by
  induction cs with
  | nil => rfl
  | cons c rest ih =>
    obtain ⟨first, later⟩ := List.forall_mem_cons.mp others
    rw [List.flatMap_cons, snakeInner_of_not_uppercase first, ih later]
    rfl

theorem snakeInner_underscore : snakeInner '_' = ['_'] :=
  snakeInner_of_not_uppercase (isUppercase_of_ascii (by decide))

theorem flatMap_snakeInner_lowercase {c : Char} (paired : isLoneCapital c = false) :
    (lowercase c).flatMap snakeInner = lowercase c :=
  flatMap_snakeInner_of_not_uppercase fun _ member =>
    (isUppercase_of_mem_lowercase member).trans paired

theorem flatMap_snakeInner_snakeInner (c : Char) :
    (snakeInner c).flatMap snakeInner = snakeInnerTwice c := by
  unfold snakeInnerTwice
  cases upper : isUppercase c with
  | false =>
    rw [snakeInner_of_not_uppercase upper, List.flatMap_singleton,
      snakeInner_of_not_uppercase upper, isLoneCapital, upper, Bool.false_and]
    rfl
  | true =>
    have set_off : snakeInner c = '_' :: lowercase c := by rw [snakeInner, if_pos upper]
    rw [set_off, List.flatMap_cons, snakeInner_underscore]
    cases lone : isLoneCapital c with
    | false =>
      rw [flatMap_snakeInner_lowercase lone]
      rfl
    | true =>
      rw [lowercase_of_lone lone, List.flatMap_singleton, set_off, lowercase_of_lone lone]
      rfl

/-- What a first character is lowered to is not changed by another pass. -/
theorem snakeChars_lowercase_append (c : Char) (cs : List Char) :
    snakeChars (lowercase c ++ cs) = lowercase c ++ cs.flatMap snakeInner := by
  obtain ⟨first, rest, lowered⟩ := List.exists_cons_of_ne_nil (lowercase_ne_nil c)
  have kept : lowercase first = [first] := by
    apply lowercase_of_mem_lowercase (c := c)
    rw [lowered]
    exact List.mem_cons_self
  have later : rest.flatMap snakeInner = rest := by
    cases lone : isLoneCapital c with
    | true =>
      rw [lowercase_of_lone lone] at lowered
      cases lowered
      rfl
    | false =>
      refine flatMap_snakeInner_of_not_uppercase fun small member => ?_
      have listed : small ∈ lowercase c := by
        rw [lowered]
        exact List.mem_cons_of_mem _ member
      exact (isUppercase_of_mem_lowercase listed).trans lone
  rw [lowered, List.cons_append, snakeChars, kept, List.flatMap_append, later]
  rfl

/-- Two passes, character by character. -/
theorem snakeChars_snakeChars (c : Char) (rest : List Char) :
    snakeChars (snakeChars (c :: rest)) = lowercase c ++ rest.flatMap snakeInnerTwice := by
  have twice : (fun other => (snakeInner other).flatMap snakeInner) = snakeInnerTwice :=
    funext flatMap_snakeInner_snakeInner
  rw [snakeChars, snakeChars_lowercase_append, List.flatMap_assoc, twice]

/-- Two passes write one underscore more than a single one for every lone capital. -/
theorem length_flatMap_snakeInnerTwice (cs : List Char) :
    (cs.flatMap snakeInnerTwice).length =
      (cs.flatMap snakeInner).length + cs.countP isLoneCapital := by
  induction cs with
  | nil => rfl
  | cons c rest ih =>
    rw [List.flatMap_cons, List.flatMap_cons, List.length_append, List.length_append, ih,
      List.countP_cons, snakeInnerTwice]
    cases lone : isLoneCapital c with
    | false => simp [Nat.add_assoc]
    | true =>
      have upper : isUppercase c = true := (Bool.and_eq_true_iff.mp lone).1
      rw [snakeInner, upper, lowercase_of_lone lone]
      simp only [if_true, List.length_cons, List.length_nil]
      omega

/-- A text in snake case is kept by a second pass exactly when the name it was made of has no
lone capital after its first character. -/
theorem snakeCase_snakeCase_eq_iff (name : String) :
    snakeCase (snakeCase name) = snakeCase name ↔
      ∀ c ∈ name.toList.tail, isLoneCapital c = false := by
  unfold snakeCase
  rw [String.toList_ofList, String.ofList_inj]
  cases name.toList with
  | nil => simp [snakeChars]
  | cons c rest =>
    rw [snakeChars_snakeChars, snakeChars, List.append_cancel_left_eq, List.tail_cons]
    constructor
    · intro same
      have lengths := congrArg List.length same
      rw [length_flatMap_snakeInnerTwice] at lengths
      have none_lone : rest.countP isLoneCapital = 0 := by omega
      intro c member
      simpa using List.countP_eq_zero.mp none_lone c member
    · intro paired
      rw [List.flatMap_def, List.flatMap_def]
      congr 1
      apply List.map_congr_left
      intro c member
      rw [snakeInnerTwice, paired c member]
      rfl

/-- A bold capital behind another letter is set off by a second pass again. -/
theorem snakeCase_snakeCase_bold : snakeCase (snakeCase "a𝐀") ≠ snakeCase "a𝐀" := by
  decide +kernel

end IdentityClaims.Text
