import IdentityClaims.Json.Printer

/-!
# Printed numbers

A number is printed as digits that read back as what they were printed from: an integer by its
own digits, and a double by those of its shortest decimal, with a point among them.
-/

namespace IdentityClaims.Number

/-! ## Digits -/

theorem isDigit_digitChar : ∀ digit < 10, (digitChar digit).isDigit = true := by decide

theorem digitValue_digitChar : ∀ digit < 10, digitValue (digitChar digit) = digit := by decide

theorem toNat_of_isDigit {c : Char} (digit : c.isDigit = true) : 48 ≤ c.toNat ∧ c.toNat ≤ 57 := by
  simpa [Char.isDigit, UInt32.le_iff_toNat_le] using digit

theorem digitChar_digitValue {c : Char} (digit : c.isDigit = true) :
    digitChar (digitValue c) = c := by
  unfold digitValue digitChar
  rw [Nat.add_sub_cancel' (toNat_of_isDigit digit).1, Char.ofNat_toNat]

theorem digitChar_ne_zero : ∀ digit < 10, digit ≠ 0 → digitChar digit ≠ '0' := by decide

theorem digits_of_lt {n : Nat} (small : n < 10) : digits n = [digitChar n] := by
  rw [digits, if_pos small]

theorem digits_ne_nil (n : Nat) : digits n ≠ [] := by
  rw [digits]
  split <;> simp

theorem isDigit_of_mem_digits {n : Nat} : ∀ c ∈ digits n, c.isDigit = true := by
  fun_induction digits n with
  | case1 n small => exact List.forall_mem_singleton.mpr (isDigit_digitChar n small)
  | case2 n _ ih =>
    exact List.forall_mem_append.mpr ⟨ih, List.forall_mem_singleton.mpr
      (isDigit_digitChar _ (Nat.mod_lt _ (by decide)))⟩

/-- Only zero is written with a zero in front. -/
theorem head?_digits {n : Nat} (positive : n ≠ 0) : (digits n).head? ≠ some '0' := by
  fun_induction digits n with
  | case1 n small => exact fun zero => digitChar_ne_zero n small positive (Option.some.inj zero)
  | case2 n large ih =>
    have nonempty : (digits (n / 10)).head?.isSome := by
      rw [List.isSome_head?]
      simp [digits_ne_nil]
    rw [List.head?_append, Option.or_of_isSome nonempty]
    exact ih (by omega)

theorem ofDecimal_concat (front : List Char) (c : Char) :
    ofDecimal (front ++ [c]) = ofDecimal front * 10 + digitValue c :=
  List.foldl_append

theorem ofDecimal_digits (n : Nat) : ofDecimal (digits n) = n := by
  fun_induction digits n with
  | case1 n small =>
    rw [← List.nil_append [digitChar n], ofDecimal_concat, digitValue_digitChar n small]
    exact Nat.zero_add n
  | case2 n _ ih =>
    rw [ofDecimal_concat, ih, digitValue_digitChar _ (Nat.mod_lt _ (by decide))]
    omega

/-- Zeros behind a numeral are powers of ten. -/
theorem ofDecimal_append_zeros (front : List Char) (count : Nat) :
    ofDecimal (front ++ List.replicate count '0') = ofDecimal front * tenTo count := by
  induction count with
  | zero => rw [List.replicate_zero, List.append_nil, tenTo, Nat.pow_eq, Nat.pow_zero, Nat.mul_one]
  | succ count ih =>
    rw [List.replicate_succ', ← List.append_assoc, ofDecimal_concat, ih, tenTo, tenTo, Nat.pow_eq,
      Nat.pow_eq, Nat.pow_succ, Nat.mul_assoc]
    rfl

/-- Zeros in front of a numeral do not count. -/
theorem ofDecimal_zeros_append (count : Nat) (back : List Char) :
    ofDecimal (List.replicate count '0' ++ back) = ofDecimal back := by
  induction count with
  | zero => rfl
  | succ count ih => exact ih

end IdentityClaims.Number

namespace IdentityClaims.Json

open IdentityClaims.Number

/-! ## Numbers at the front of a text -/

/-- What may follow a value: nothing, or what closes or separates items. -/
def Ends (rest : List Char) : Prop :=
  ∀ c ∈ rest.head?, c = ',' ∨ c = ']' ∨ c = '\x7d'

/-- The digits of a numeral, of which a zero in front of the point stands alone. -/
structure Written (whole places : List Char) : Prop where
  nonempty : whole ≠ []
  isDigit : ∀ c ∈ whole ++ places, c.isDigit = true
  alone : whole.head? = some '0' → whole.length = 1

/-- The places of a numeral behind their point, if there are any. -/
def fractionText : List Char → List Char
  | [] => []
  | first :: others => '.' :: first :: others

theorem digitRun_append {run rest : List Char} (digits : ∀ c ∈ run, c.isDigit = true)
    (stop : ∀ c ∈ rest.head?, c.isDigit = false) : digitRun (run ++ rest) = (run, rest) := by
  rw [digitRun, List.takeWhile_append_of_pos digits, List.dropWhile_append_of_pos digits]
  cases rest with
  | nil => simp
  | cons c rest => simp [stop c rfl]

theorem Ends.not_isDigit {rest : List Char} (ends : Ends rest) :
    ∀ c ∈ rest.head?, c.isDigit = false := by
  intro c first
  rcases ends c first with rfl | rfl | rfl <;> decide

theorem exponent?_of_ends {rest : List Char} (ends : Ends rest) :
    exponent? rest = some (0, false, rest) := by
  cases rest with
  | nil => rfl
  | cons c rest => rcases ends c rfl with rfl | rfl | rfl <;> rfl

theorem fraction?_fractionText {places rest : List Char}
    (digits : ∀ c ∈ places, c.isDigit = true) (ends : Ends rest) :
    fraction? (fractionText places ++ rest) = some (places, !places.isEmpty, rest) := by
  cases places with
  | nil =>
    cases rest with
    | nil => rfl
    | cons c rest => rcases ends c rfl with rfl | rfl | rfl <;> rfl
  | cons first others =>
    rw [fractionText, List.cons_append, fraction?, digitRun_append digits ends.not_isDigit]
    rfl

/-- A numeral is read up to what may follow a value. -/
theorem unsigned?_of_written {whole places rest : List Char} (written : Written whole places)
    (ends : Ends rest) (negative : Bool) :
    unsigned? negative (whole ++ fractionText places ++ rest) =
      some (⟨negative, ofDecimal (whole ++ places), -places.length, places.isEmpty⟩, rest) := by
  have stop : ∀ c ∈ (fractionText places ++ rest).head?, c.isDigit = false := by
    cases places with
    | nil => exact ends.not_isDigit
    | cons first others =>
      rintro c ⟨⟩
      decide
  have digits := List.forall_mem_append.mp written.isDigit
  have proper : ¬ (whole.isEmpty || (whole.head? == some '0' && whole.length > 1)) = true := by
    simp only [Bool.or_eq_true, Bool.and_eq_true, List.isEmpty_iff, beq_iff_eq, decide_eq_true_eq]
    rintro (empty | ⟨zero, more⟩)
    · exact written.nonempty empty
    · have single := written.alone zero
      omega
  rw [unsigned?, List.append_assoc, digitRun_append digits.1 stop]
  simp only [if_neg proper, fraction?_fractionText digits.2 ends, exponent?_of_ends ends,
    Option.bind_eq_bind, Option.bind_some]
  simp

/-! ## Shortest decimals -/

/-- Digits are written with one zero at most in front, unless zero is multiplied. -/
theorem written_digits {n count : Nat} (proper : n = 0 → count = 0) {places : List Char}
    (fraction : ∀ c ∈ places, c.isDigit = true) :
    Written (digits n ++ List.replicate count '0') places := by
  have zeros : ∀ c ∈ List.replicate count '0', c.isDigit = true := by
    intro c member
    rw [List.eq_of_mem_replicate member]
    decide
  refine ⟨by simp [digits_ne_nil], List.forall_mem_append.mpr
    ⟨List.forall_mem_append.mpr ⟨isDigit_of_mem_digits, zeros⟩, fraction⟩, fun zero => ?_⟩
  by_cases nothing : n = 0
  · rw [nothing, proper nothing, digits_of_lt (by decide)]
    rfl
  · have nonempty : (digits n).head?.isSome := by
      rw [List.isSome_head?]
      simp [digits_ne_nil]
    rw [List.head?_append, Option.or_of_isSome nonempty] at zero
    exact absurd zero (head?_digits nothing)

/-- A decimal with places is written with one digit at least in front of the point. -/
theorem written_of_places {d : Decimal} (fraction : d.scale < 0) :
    ∃ whole places, Written whole places ∧ d.positional = whole ++ fractionText places ∧
      (places.length : Int) = -d.scale ∧ ofDecimal (whole ++ places) = d.coefficient := by
  obtain ⟨count, scale⟩ : ∃ count : Nat, (-d.scale).toNat = count + 1 :=
    ⟨(-d.scale).toNat - 1, by omega⟩
  have enough : 0 < (Number.digits d.coefficient).length :=
    List.length_pos_iff.mpr (digits_ne_nil _)
  rw [Decimal.positional, if_neg (by omega)]
  simp only [scale]
  generalize padding : List.replicate (count + 1 + 1 - (Number.digits d.coefficient).length) '0' ++
    Number.digits d.coefficient = padded
  have length : padded.length = max (count + 2) (Number.digits d.coefficient).length := by
    rw [← padding, List.length_append, List.length_replicate]
    omega
  have places : (padded.drop (padded.length - (count + 1))).length = count + 1 := by
    rw [List.length_drop]
    omega
  have front : (padded.take (padded.length - (count + 1))).length =
      padded.length - (count + 1) := by
    rw [List.length_take]
    omega
  refine ⟨padded.take (padded.length - (count + 1)), padded.drop (padded.length - (count + 1)),
    ⟨?_, ?_, fun zero => ?_⟩, ?_, ?_, ?_⟩
  · exact List.length_pos_iff.mp (by omega)
  · rw [List.take_append_drop, ← padding]
    refine List.forall_mem_append.mpr ⟨fun c member => ?_, isDigit_of_mem_digits⟩
    rw [List.eq_of_mem_replicate member]
    decide
  · rcases Nat.lt_or_ge (count + 2) (Number.digits d.coefficient).length with long | short
    · -- Digits that reach beyond the point are not padded, and none of them is a zero in front.
      have bare : padded = Number.digits d.coefficient := by
        rw [← padding, Nat.sub_eq_zero_of_le (by omega), List.replicate_zero, List.nil_append]
      rw [List.head?_take, if_neg (by omega), bare] at zero
      have nothing : d.coefficient = 0 :=
        Decidable.byContradiction fun positive => head?_digits positive zero
      rw [nothing, digits_of_lt (by decide), List.length_singleton] at long
      omega
    · rw [front]
      omega
  · cases fraction : padded.drop (padded.length - (count + 1)) with
    | nil => simp [fraction] at places
    | cons first others => rfl
  · omega
  · rw [List.take_append_drop, ← padding, ofDecimal_zeros_append, ofDecimal_digits]

theorem readsBack_of_onGrid? {x : Binary64} {scale : Int} {d : Decimal}
    (found : x.onGrid? scale = some d) : x.readsBack d = true := by
  unfold Binary64.onGrid? at found
  grind

/-- Nothing but zero is read back from digits that are zero. -/
theorem significand_of_readsBack {x : Binary64} {d : Decimal} (reads : x.readsBack d = true)
    (zero : d.coefficient = 0) : x.significand = 0 := by
  rw [Binary64.readsBack, beq_iff_eq, Binary64.ofDecimal?, zero] at reads
  rw [← Option.some.inj reads]
  rfl

/-- The shortest decimal of a double is no zero with a power of ten. -/
theorem scale_shortest {x : Binary64} (zero : x.shortest.coefficient = 0) :
    x.shortest.scale = 0 := by
  unfold Binary64.shortest at zero ⊢
  split
  · rfl
  · next positive =>
    rw [if_neg positive] at zero
    cases found : (List.range 19).findSome? fun (k : Nat) => x.onGrid? (x.leadingScale + 1 - k) with
    | none => rfl
    | some d =>
      obtain ⟨k, -, grid⟩ := List.exists_of_findSome?_eq_some found
      rw [found] at zero
      exact absurd (significand_of_readsBack (readsBack_of_onGrid? grid) zero) positive

/-! ## Literals -/

/-- The numeral that a number is printed as: the integer itself, or the shortest decimal of a
double, with one place at least. -/
def Number.toNumeral : Number → Numeral
  | .integer n => ⟨decide (n < 0), n.natAbs, 0, true⟩
  | .float x =>
    let d := x.shortest
    if 0 ≤ d.scale then ⟨x.negative, d.coefficient * tenTo (d.scale.toNat + 1), -1, false⟩
    else ⟨x.negative, d.coefficient, d.scale, false⟩

/-- The sign in front of the digits of a number. -/
def signText : Bool → List Char
  | true => ['-']
  | false => []

/-- A text is a sign, digits and places, and a numeral is what they write. -/
def Spells (cs : List Char) (numeral : Numeral) : Prop :=
  ∃ whole places, Written whole places ∧
    cs = signText numeral.negative ++ whole ++ fractionText places ∧
    numeral = ⟨numeral.negative, ofDecimal (whole ++ places), -places.length, places.isEmpty⟩

theorem spells_integer (n : Int) :
    Spells (Number.integer n).literal.toList (Number.integer n).toNumeral := by
  have written : Written (digits n.natAbs ++ List.replicate 0 '0') [] :=
    written_digits (fun _ => rfl) (List.forall_mem_nil _)
  rw [List.replicate_zero, List.append_nil] at written
  refine ⟨digits n.natAbs, [], written, ?_, ?_⟩
  · rw [Number.literal, String.toList_ofList, Number.numeral, Number.toNumeral, fractionText]
    by_cases negative : n < 0 <;> simp [negative, signText]
  · rw [List.append_nil, ofDecimal_digits]
    rfl

theorem text_eq (x : Binary64) : x.text = signText x.negative ++ x.shortest.positional := by
  rw [Binary64.text]
  cases x.negative <;> rfl

theorem point_not_mem_signText (negative : Bool) : '.' ∉ signText negative := by
  cases negative <;> decide

/-- A double without places gets one. -/
theorem spells_of_whole {x : Binary64} (whole : 0 ≤ x.shortest.scale) :
    Spells (Number.float x).literal.toList (Number.float x).toNumeral := by
  have written : Written x.shortest.positional ['0'] := by
    rw [Decimal.positional, if_pos whole]
    exact written_digits (fun zero => by rw [scale_shortest zero]; rfl)
      (List.forall_mem_singleton.mpr (by decide))
  have bare : '.' ∉ signText x.negative ++ x.shortest.positional := by
    intro member
    rcases List.mem_append.mp member with sign | body
    · exact point_not_mem_signText x.negative sign
    · exact absurd (written.isDigit _ (List.mem_append_left _ body)) (by decide)
  refine ⟨x.shortest.positional, ['0'], written, ?_, ?_⟩
  · rw [Number.literal, text_eq, if_neg bare, String.toList_append, String.toList_ofList,
      Number.toNumeral]
    simp only [if_pos whole]
    rfl
  · rw [Number.toNumeral]
    simp only [if_pos whole]
    rw [Decimal.positional, if_pos whole, List.append_assoc, ← List.replicate_succ',
      ofDecimal_append_zeros, ofDecimal_digits]
    rfl

/-- A double with places is printed as it stands. -/
theorem spells_of_places {x : Binary64} (fraction : x.shortest.scale < 0) :
    Spells (Number.float x).literal.toList (Number.float x).toNumeral := by
  obtain ⟨front, places, written, spelled, length, value⟩ := written_of_places fraction
  obtain ⟨first, others, rfl⟩ : ∃ first others, places = first :: others :=
    List.exists_cons_of_ne_nil fun none => by
      rw [none, List.length_nil] at length
      omega
  have point : '.' ∈ signText x.negative ++ x.shortest.positional := by
    rw [spelled, fractionText]
    simp
  refine ⟨front, first :: others, written, ?_, ?_⟩
  · rw [Number.literal, text_eq, if_pos point, String.toList_ofList, Number.toNumeral, spelled,
      List.append_assoc]
    simp only [if_neg (Int.not_le.mpr fraction)]
  · rw [Number.toNumeral]
    simp only [if_neg (Int.not_le.mpr fraction)]
    rw [value, length, Int.neg_neg]
    rfl

theorem spells_literal (n : Number) : Spells n.literal.toList n.toNumeral := by
  cases n with
  | integer n => exact spells_integer n
  | float x =>
    by_cases fraction : x.shortest.scale < 0
    · exact spells_of_places fraction
    · exact spells_of_whole (Int.not_lt.mp fraction)

/-- A digit begins a number without a sign. -/
theorem next?_of_isDigit {c : Char} (digit : c.isDigit = true) (cs : List Char) :
    Token.next? (c :: cs) =
      (unsigned? false (c :: cs)).map fun read => (.number read.1, read.2) := by
  unfold Token.next?
  split
  case h_12 => cases unsigned? false (c :: cs) <;> rfl
  -- No other token begins with a digit.
  all_goals
    cases (List.cons.inj ‹_›).1
    exact absurd digit (by decide)

/-- A spelled number is read as its numeral up to what may follow a value. -/
theorem Spells.next? {cs : List Char} {numeral : Numeral} (spelled : Spells cs numeral)
    {rest : List Char} (ends : Ends rest) :
    Token.next? (cs ++ rest) = some (.number numeral, rest) := by
  obtain ⟨whole, places, written, rfl, value⟩ := spelled
  have read := unsigned?_of_written written ends numeral.negative
  rw [← value] at read
  obtain ⟨first, others, rfl⟩ := List.exists_cons_of_ne_nil written.nonempty
  cases sign : numeral.negative with
  | true =>
    rw [sign] at read
    simp only [signText, List.append_assoc, List.cons_append, List.nil_append] at read ⊢
    rw [Token.next?, read]
    rfl
  | false =>
    have digit : first.isDigit = true := written.isDigit _ List.mem_cons_self
    rw [sign] at read
    simp only [signText, List.append_assoc, List.cons_append, List.nil_append] at read ⊢
    rw [next?_of_isDigit digit, read]
    rfl

theorem isBlank_of_isDigit {c : Char} (digit : c.isDigit = true) : isBlank c = false := by
  rw [Bool.eq_false_iff]
  simp only [isBlank, ne_eq, Bool.or_eq_true, beq_iff_eq]
  rintro (((rfl | rfl) | rfl) | rfl) <;> exact absurd digit (by decide)

/-- A spelled number begins with its sign or a digit. -/
theorem Spells.exists_cons {cs : List Char} {numeral : Numeral} (spelled : Spells cs numeral) :
    ∃ c others, cs = c :: others ∧ isBlank c = false := by
  obtain ⟨whole, places, written, rfl, -⟩ := spelled
  obtain ⟨first, others, rfl⟩ := List.exists_cons_of_ne_nil written.nonempty
  cases numeral.negative with
  | true => exact ⟨'-', _, rfl, by decide⟩
  | false =>
    exact ⟨first, _, rfl, isBlank_of_isDigit (written.isDigit _ List.mem_cons_self)⟩

end IdentityClaims.Json
