import IdentityClaims.Proofs.Numerals
import IdentityClaims.Proofs.ReaderMeaning
import Mathlib.Data.List.Induction
import Mathlib.Data.Rat.Floor
import Mathlib.Data.Sign.Basic
import Mathlib.Tactic.FieldSimp
import Mathlib.Tactic.Linarith
import Mathlib.Tactic.NormNum
import Mathlib.Tactic.Positivity

/-!
# Rendering of numbers

A number is rendered (`render_number`) as the integer nearest to its exact value, a half away from
zero, and that integer as its canonical numeral. The value is a rational number, so integers and
doubles are compared as numbers and not as what they are stored as.
-/

namespace IdentityClaims.Number

/-! ## Half away from zero -/

/-- The nearest integer, a half away from zero. -/
def halfAway (q : ℚ) : ℤ :=
  SignType.sign q * ⌊|q| + 1 / 2⌋

theorem halfAway_of_nonneg {q : ℚ} (nonneg : 0 ≤ q) : halfAway q = ⌊q + 1 / 2⌋ := by
  unfold halfAway
  rcases nonneg.eq_or_lt with rfl | positive
  · norm_num
  · rw [sign_pos positive, abs_of_pos positive, SignType.coe_one, one_mul]

theorem halfAway_neg (q : ℚ) : halfAway (-q) = -halfAway q := by
  unfold halfAway
  rw [Left.sign_neg, abs_neg, SignType.coe_neg, neg_mul]

theorem halfAway_nonneg {q : ℚ} (nonneg : 0 ≤ q) : 0 ≤ halfAway q := by
  rw [halfAway_of_nonneg nonneg]
  exact Int.floor_nonneg.mpr (by linarith)

theorem halfAway_intCast (n : ℤ) : halfAway n = n := by
  have natural : ∀ k : ℕ, halfAway ((k : ℤ) : ℚ) = k := by
    intro k
    rw [halfAway_of_nonneg (by positivity), Int.floor_intCast_add]
    norm_num
  rcases Int.eq_nat_or_neg n with ⟨k, rfl | rfl⟩
  · exact natural k
  · rw [Int.cast_neg, halfAway_neg, natural]

/-- Rounding keeps the order of numbers. -/
theorem halfAway_mono {p q : ℚ} (le : p ≤ q) : halfAway p ≤ halfAway q := by
  have above : ∀ {a b : ℚ}, 0 ≤ a → a ≤ b → halfAway a ≤ halfAway b := by
    intro a b nonneg le
    rw [halfAway_of_nonneg nonneg, halfAway_of_nonneg (nonneg.trans le)]
    exact Int.floor_mono (by linarith)
  rcases le_total 0 p with nonneg | nonpos
  · exact above nonneg le
  · have below : 0 ≤ halfAway (-p) := halfAway_nonneg (by linarith)
    rcases le_total 0 q with nonneg | negative
    · have upper := halfAway_nonneg nonneg
      rw [halfAway_neg] at below
      omega
    · have mirrored := above (a := -q) (b := -p) (by linarith) (by linarith)
      rw [halfAway_neg, halfAway_neg] at mirrored
      omega

/-! ## Doubles -/

namespace Binary64

/-- The absolute value of a finite double. -/
def magnitude (x : Binary64) : ℚ :=
  x.significand * 2 ^ x.exponent

/-- The exact value of a finite double. -/
def value (x : Binary64) : ℚ :=
  if x.negative then -x.magnitude else x.magnitude

theorem magnitude_nonneg (x : Binary64) : 0 ≤ x.magnitude := by
  unfold magnitude
  exact mul_nonneg (Nat.cast_nonneg _) (zpow_nonneg zero_le_two _)

/-- The ratio of a double is in natural numbers what its magnitude is. -/
theorem ratio_eq (x : Binary64) :
    0 < x.ratio.2 ∧ x.magnitude = (x.ratio.1 : ℚ) / (x.ratio.2 : ℚ) := by
  unfold ratio magnitude
  by_cases fraction : x.exponent < 0
  · obtain ⟨places, exponent⟩ : ∃ places : ℕ, x.exponent = -(places : ℤ) :=
      ⟨(-x.exponent).toNat, by omega⟩
    rw [if_pos fraction, exponent, neg_neg, Int.toNat_natCast]
    refine ⟨Nat.two_pow_pos places, ?_⟩
    rw [zpow_neg, zpow_natCast, twoTo, Nat.pow_eq, Nat.cast_pow, Nat.cast_ofNat, div_eq_mul_inv]
  · obtain ⟨zeros, exponent⟩ : ∃ zeros : ℕ, x.exponent = zeros :=
      ⟨x.exponent.toNat, by omega⟩
    rw [if_neg fraction, exponent, Int.toNat_natCast]
    refine ⟨Nat.one_pos, ?_⟩
    rw [zpow_natCast, twoTo, Nat.pow_eq, Nat.cast_one, div_one, Nat.cast_mul, Nat.cast_pow,
      Nat.cast_ofNat]

theorem roundedMagnitude_eq (x : Binary64) :
    (x.roundedMagnitude : ℤ) = ⌊x.magnitude + 1 / 2⌋ := by
  obtain ⟨positive, magnitude⟩ := x.ratio_eq
  have halves : x.magnitude + 1 / 2 =
      ((2 * x.ratio.1 + x.ratio.2 : ℕ) : ℚ) / ((2 * x.ratio.2 : ℕ) : ℚ) := by
    have nonzero : (x.ratio.2 : ℚ) ≠ 0 := by exact_mod_cast positive.ne'
    rw [magnitude]
    push_cast
    field_simp
  rw [halves, Rat.floor_natCast_div_natCast]
  rfl

/-- A double is rounded as its exact value is. -/
theorem round_eq (x : Binary64) : x.round = halfAway x.value := by
  have rounded : (x.roundedMagnitude : ℤ) = halfAway x.magnitude := by
    rw [roundedMagnitude_eq, halfAway_of_nonneg x.magnitude_nonneg]
  unfold round value
  cases x.negative with
  | true => simp [rounded, halfAway_neg]
  | false => simp [rounded]

end Binary64

end IdentityClaims.Number

namespace IdentityClaims.Json

open IdentityClaims.Number

/-- The exact value of a number. -/
def Number.value : Number → ℚ
  | .integer n => n
  | .float x => x.value

theorem Number.round_eq (n : Number) : n.round = halfAway n.value := by
  cases n with
  | integer n => exact (halfAway_intCast n).symm
  | float x => exact x.round_eq

/-! ## Numerals -/

/-- The canonical decimal numeral of an integer: digits without a zero in front of others, behind
a minus sign or none, and no minus sign before zero. -/
def IsNumeral (n : ℤ) (text : String) : Prop :=
  ∃ (negative : Bool) (run : List Char), Written run [] ∧ (negative = true → run ≠ ['0']) ∧
    text.toList = signText negative ++ run ∧
    n = if negative then -(ofDecimal run : ℤ) else ofDecimal run

/-- Digits without a zero in front of others are the digits of what they write. -/
theorem digits_ofDecimal {run : List Char} (written : Written run []) :
    digits (ofDecimal run) = run := by
  induction run using List.reverseRecOn with
  | nil => exact absurd rfl written.nonempty
  | append_singleton front c ih =>
    have isDigit := List.forall_mem_append.mp (List.append_nil _ ▸ written.isDigit)
    have last := isDigit.2 c (List.mem_singleton_self c)
    have own := digitChar_digitValue last
    have small : digitValue c < 10 := by
      have bounds := toNat_of_isDigit last
      unfold digitValue
      omega
    rw [ofDecimal_concat]
    by_cases single : front = []
    · subst single
      have bare : ofDecimal [] * 10 + digitValue c = digitValue c := Nat.zero_add _
      rw [bare, digits_of_lt small, own]
      rfl
    · -- A run of several digits starts with no zero, and neither does what is before its last.
      have proper : front.head? ≠ some '0' := by
        intro zero
        have alone := written.alone (by rw [List.head?_append, zero]; rfl)
        have more := List.length_pos_iff.mpr single
        rw [List.length_append, List.length_singleton] at alone
        omega
      have front_digits : digits (ofDecimal front) = front :=
        ih ⟨single, by simpa using isDigit.1, fun zero => absurd zero proper⟩
      have positive : ofDecimal front ≠ 0 := by
        intro zero
        rw [zero, digits_of_lt (by decide)] at front_digits
        exact proper (by rw [← front_digits]; rfl)
      rw [digits, if_neg (by omega)]
      have quotient : (ofDecimal front * 10 + digitValue c) / 10 = ofDecimal front := by omega
      have remainder : (ofDecimal front * 10 + digitValue c) % 10 = digitValue c := by omega
      rw [quotient, remainder, front_digits, own]

theorem isNumeral_numeral (n : ℤ) : IsNumeral n (String.ofList (numeral n)) := by
  have written : Written (digits n.natAbs ++ List.replicate 0 '0') [] :=
    written_digits (fun _ => rfl) (List.forall_mem_nil _)
  rw [List.replicate_zero, List.append_nil] at written
  refine ⟨decide (n < 0), digits n.natAbs, written, fun negative zero => ?_, ?_, ?_⟩
  · have value := ofDecimal_digits n.natAbs
    rw [zero] at value
    have nothing : n.natAbs = 0 := value.symm
    have below := of_decide_eq_true negative
    omega
  · rw [String.toList_ofList, numeral]
    by_cases negative : n < 0 <;> simp [negative, signText]
  · rw [ofDecimal_digits]
    by_cases negative : n < 0
    · rw [decide_eq_true negative, if_pos rfl]
      omega
    · rw [decide_eq_false negative, if_neg Bool.false_ne_true]
      omega

/-- An integer has one numeral. -/
theorem isNumeral_iff (n : ℤ) (text : String) :
    IsNumeral n text ↔ text = String.ofList (numeral n) := by
  constructor
  · rintro ⟨negative, run, written, proper, spelled, rfl⟩
    rw [← String.toList_inj, String.toList_ofList, spelled, numeral]
    cases negative with
    | false => simp [signText, digits_ofDecimal written, Int.not_lt.mpr (Int.natCast_nonneg _)]
    | true =>
      have positive : ofDecimal run ≠ 0 := by
        intro zero
        have nothing := digits_ofDecimal written
        rw [zero, digits_of_lt (by decide)] at nothing
        exact proper rfl nothing.symm
      have below : -(ofDecimal run : ℤ) < 0 := by omega
      rw [if_pos rfl, if_pos below, Int.natAbs_neg, Int.natAbs_natCast, digits_ofDecimal written]
      rfl
  · rintro rfl
    exact isNumeral_numeral n

theorem numeral_injective {m n : ℤ} (same : numeral m = numeral n) : m = n := by
  have sign : ∀ {k : ℤ} (i : ℕ), numeral k = digits i → ¬ k < 0 := by
    intro k i same negative
    rw [numeral, if_pos negative] at same
    have minus : '-' ∈ digits i := same ▸ List.mem_cons_self
    exact absurd (isDigit_of_mem_digits _ minus) (by decide)
  have magnitude : ∀ {i j : ℕ}, digits i = digits j → i = j := fun {i j} same => by
    rw [← ofDecimal_digits i, same, ofDecimal_digits]
  by_cases first : m < 0 <;> by_cases second : n < 0
  · rw [numeral, numeral, if_pos first, if_pos second] at same
    have equal := magnitude (List.cons.inj same).2
    omega
  · exact absurd first (sign n.natAbs (same.trans (if_neg second)))
  · exact absurd second (sign m.natAbs (same.symm.trans (if_neg first)))
  · rw [numeral, numeral, if_neg first, if_neg second] at same
    have equal := magnitude same
    omega

/-- What is rendered is the numeral of one integer, that nearest to the value. -/
theorem isNumeral_render_iff (n : Number) (k : ℤ) :
    IsNumeral k n.render ↔ k = halfAway n.value := by
  rw [isNumeral_iff, Number.render, String.ofList_inj, ← n.round_eq]
  constructor
  · exact fun same => (numeral_injective same).symm
  · exact fun same => same ▸ rfl

end IdentityClaims.Json

namespace IdentityClaims.Reader

open Json IdentityClaims.Number

/-- Numbers are rendered exactly. The text of a number at the end of a path is the one canonical
numeral of the integer nearest to its value; so an integer is kept, in whichever form it is
stored, opposite numbers have opposite texts, and the order of numbers is that of their texts. -/
theorem extract_number :
    (∀ (root : Value) (path : String) (n : Json.Number) (fallback : String),
      ¬ Path.Malformed path → root.Reaches (Path.pieces path) (.number n) →
        Reader.text.extract root path fallback = .ok n.render ∧
          ∀ text, IsNumeral (halfAway n.value) text ↔ text = n.render) ∧
    (∀ k : ℤ, IsNumeral k (Json.Number.integer k).render) ∧
    (∀ (x : Binary64) (k : ℤ), x.value = k →
      (Json.Number.float x).render = (Json.Number.integer k).render) ∧
    (∀ x y : Json.Number, y.value = -x.value →
      ∀ k, IsNumeral k x.render ↔ IsNumeral (-k) y.render) ∧
    (∀ x y : Json.Number, x.value ≤ y.value →
      ∀ j k, IsNumeral j x.render → IsNumeral k y.render → j ≤ k) := by
  refine ⟨fun root path n fallback proper reached => ⟨?_, fun text => ?_⟩, fun k => ?_,
    fun x k whole => ?_, fun x y opposite k => ?_, fun x y le j k first second => ?_⟩
  · rw [extract_of_reaches Reader.text fallback proper reached]
    rfl
  · rw [isNumeral_iff, Json.Number.render, n.round_eq]
  · rw [isNumeral_render_iff, Json.Number.value, halfAway_intCast]
  · have own : IsNumeral k (Json.Number.float x).render := by
      rw [isNumeral_render_iff, Json.Number.value, whole, halfAway_intCast]
    exact (isNumeral_iff k _).mp own
  · rw [isNumeral_render_iff, isNumeral_render_iff, opposite, halfAway_neg, neg_inj]
  · rw [isNumeral_render_iff] at first second
    rw [first, second]
    exact halfAway_mono le

/-! The statement at a payload with a tie below zero and an integral double. -/

/-- The double `-2.5`. -/
def lowScore : Binary64 :=
  ⟨true, 5629499534213120, -51, by decide⟩

/-- The double `3`. -/
def highScore : Binary64 :=
  ⟨false, 6755399441055744, -51, by decide⟩

def scorePayload : Value :=
  .object [("score", .object [("low", .number (.float lowScore)), ("high", .number (.integer 3))])]

theorem value_lowScore : lowScore.value = -(5 / 2) := by
  norm_num [Binary64.value, Binary64.magnitude, lowScore]

theorem value_highScore : highScore.value = (3 : ℤ) := by
  norm_num [Binary64.value, Binary64.magnitude, highScore]

theorem extract_number_score :
    ¬ Path.Malformed "score.low" ∧
      scorePayload.Reaches (Path.pieces "score.low") (.number (.float lowScore)) ∧
      Reader.text.extract scorePayload "score.low" "n/a" = .ok (Json.Number.float lowScore).render ∧
      highScore.value = (3 : ℤ) ∧
      (Json.Number.float highScore).render = (Json.Number.integer 3).render ∧
      (Json.Number.integer (-3)).value = -(Json.Number.float highScore).value ∧
      (IsNumeral 3 (Json.Number.float highScore).render ↔
        IsNumeral (-3) (Json.Number.integer (-3)).render) ∧
      (Json.Number.float lowScore).value ≤ (Json.Number.float highScore).value ∧
      IsNumeral (-3) (Json.Number.float lowScore).render ∧
      IsNumeral 3 (Json.Number.float highScore).render ∧ (-3 : ℤ) ≤ 3 := by
  obtain ⟨rendered, -, integral, opposites, ordered⟩ := extract_number
  have proper : ¬ Path.Malformed "score.low" := by decide
  have reached : scorePayload.Reaches (Path.pieces "score.low") (.number (.float lowScore)) :=
    .member rfl (.member rfl (.here _))
  have opposite : (Json.Number.integer (-3)).value = -(Json.Number.float highScore).value := by
    rw [Json.Number.value, Json.Number.value, value_highScore, Int.cast_neg]
  have le : (Json.Number.float lowScore).value ≤ (Json.Number.float highScore).value := by
    rw [Json.Number.value, Json.Number.value, value_lowScore, value_highScore]
    norm_num
  have low : IsNumeral (-3) (Json.Number.float lowScore).render := by
    rw [isNumeral_render_iff, Json.Number.value, value_lowScore, halfAway_neg,
      halfAway_of_nonneg (by norm_num)]
    norm_num
  have high : IsNumeral 3 (Json.Number.float highScore).render := by
    rw [isNumeral_render_iff, Json.Number.value, value_highScore, halfAway_intCast]
  exact ⟨proper, reached, (rendered _ _ _ "n/a" proper reached).1, value_highScore,
    integral highScore 3 value_highScore, opposite, opposites _ _ opposite 3, le, low, high,
    ordered _ _ le _ _ low high⟩

end IdentityClaims.Reader
