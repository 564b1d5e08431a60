import IdentityClaims.Proofs.ClaimFields
import IdentityClaims.Proofs.MappingEntries
import IdentityClaims.Session.Claims
import IdentityClaims.Session.Outcome

/-!
# The last write of a session on claims

What a step writes in a field depends on the step alone and not on the claim set it meets, so
after a session every field holds what the last step that wrote it left there. A step that is
refused, and a comparison, writes nothing.
-/

namespace IdentityClaims.ClaimsStep

/-- The claim set after a session. -/
def after (claims : UserClaims) (steps : List ClaimsStep) : UserClaims :=
  finalState claims (runAll claims steps)

theorem after_cons (claims : UserClaims) (step : ClaimsStep) (rest : List ClaimsStep) :
    after claims (step :: rest) = after (step.run claims).2 rest :=
  finalState_cons claims (step.run claims) _

/-- What a step writes in the field of a claim. -/
def writes? : ClaimsStep → Claim → Option ClaimValue
  | .setText name value, claim =>
    if claim.logicalName = name ∧ claim.kind = .text then some (.text value) else none
  | .setFlag name value, claim =>
    if claim.logicalName = name ∧ claim.kind = .boolean then some (.flag value) else none
  | .load text, claim => (UserClaims.parse? text).map fun loaded => loaded.get claim
  | .equals _, _ => none
  | .reset, claim => some (.absent claim.kind)

/-- The name of the claim that a step sets. -/
def target? : ClaimsStep → Option String
  | .setText name _ => some name
  | .setFlag name _ => some name
  | _ => none

/-- The last value that a session writes in the field of a claim. -/
def lastWrite? (steps : List ClaimsStep) (claim : Claim) : Option ClaimValue :=
  steps.reverse.findSome? fun step => step.writes? claim

/-! ## Values stored by name -/

section

variable (claims : UserClaims) {claim : Claim} {name : String} {value : ClaimValue}

theorem store_of_unknown (value : ClaimValue)
    (unknown : ∀ claim : Claim, claim.logicalName ≠ name) :
    store claims name value = (.unknownClaim, claims) := by
  have absent : Claim.ofName? name = none := by
    unfold Claim.ofName?
    rw [List.find?_eq_none]
    exact fun claim _ same => unknown claim (beq_iff_eq.mp same)
  rw [store, absent]

theorem store_of_kind_ne (other : value.kind ≠ claim.kind) :
    store claims claim.logicalName value = (.answered false, claims) := by
  rw [store, claim.ofName?_logicalName]
  simp only [claims.store?_of_kind_ne other]

theorem store_of_kind (own : value.kind = claim.kind) :
    ∃ next, store claims claim.logicalName value = (.answered true, next) ∧
      ∀ other, next.get other = if other = claim then value else claims.get other := by
  obtain ⟨next, stored⟩ := claims.exists_store? own
  refine ⟨next, ?_, UserClaims.get_of_store? stored⟩
  rw [store, claim.ofName?_logicalName]
  simp only [stored]

/-- The name is that of no claim, or of one whose kind the value does not have, or the value is
stored in the field of its claim alone. -/
theorem store_cases (claims : UserClaims) (name : String) (value : ClaimValue) :
    ((∀ owner : Claim, owner.logicalName ≠ name) ∧
      store claims name value = (.unknownClaim, claims)) ∨
    ∃ owner : Claim, owner.logicalName = name ∧
      (value.kind ≠ owner.kind ∧ store claims name value = (.answered false, claims) ∨
        value.kind = owner.kind ∧ ∃ next, store claims name value = (.answered true, next) ∧
          ∀ other, next.get other = if other = owner then value else claims.get other) := by
  by_cases known : ∃ owner : Claim, owner.logicalName = name
  · obtain ⟨owner, rfl⟩ := known
    refine .inr ⟨owner, rfl, ?_⟩
    by_cases own : value.kind = owner.kind
    · exact .inr ⟨own, store_of_kind claims own⟩
    · exact .inl ⟨own, store_of_kind_ne claims own⟩
  · have unknown : ∀ owner : Claim, owner.logicalName ≠ name :=
      fun owner named => known ⟨owner, named⟩
    exact .inl ⟨unknown, store_of_unknown claims value unknown⟩

/-- The answer to a store tells whether the value was of the kind of its claim. -/
theorem answer_store (claim : Claim) (value : ClaimValue) :
    (store claims claim.logicalName value).1 = .answered (decide (value.kind = claim.kind)) := by
  by_cases own : value.kind = claim.kind
  · obtain ⟨next, stored, -⟩ := store_of_kind claims own
    rw [stored, decide_eq_true own]
  · rw [store_of_kind_ne claims own, decide_eq_false own]

/-- A stored value is seen in the field of its own claim, and a refused one nowhere. -/
theorem get_store (name : String) (value : ClaimValue) (claim : Claim) :
    (store claims name value).2.get claim =
      (if claim.logicalName = name ∧ claim.kind = value.kind then some value else none).getD
        (claims.get claim) := by
  obtain ⟨unknown, refused⟩ | ⟨owner, rfl, ⟨other, refused⟩ | ⟨own, next, stored, seen⟩⟩ :=
    store_cases claims name value
  · rw [refused, if_neg fun named => unknown claim named.1, Option.getD_none]
  · rw [refused, if_neg, Option.getD_none]
    rintro ⟨named, kind⟩
    exact other (by rw [← kind, Claim.logicalName_injective named])
  · rw [stored, seen]
    by_cases same : claim = owner
    · rw [if_pos same, if_pos ⟨congrArg _ same, by rw [same, own]⟩, Option.getD_some]
    · rw [if_neg same, if_neg fun named => same (Claim.logicalName_injective named.1),
        Option.getD_none]

/-- A value that is not stored changes nothing. -/
theorem store_of_refused {claims : UserClaims}
    (refused : (store claims name value).1 ≠ .answered true) :
    (store claims name value).2 = claims := by
  obtain ⟨-, kept⟩ | ⟨owner, -, ⟨-, kept⟩ | ⟨-, next, stored, -⟩⟩ := store_cases claims name value
  · rw [kept]
  · rw [kept]
  · exact absurd (by rw [stored]) refused

/-- Whether a value is stored does not depend on the claim set. -/
theorem answer_store_congr (claims others : UserClaims) (name : String) (value : ClaimValue) :
    (store claims name value).1 = (store others name value).1 := by
  obtain ⟨unknown, refused⟩ | ⟨owner, rfl, -⟩ := store_cases claims name value
  · rw [refused, store_of_unknown others value unknown]
  · rw [answer_store, answer_store]

end

/-! ## Steps and sessions -/

/-- After a step every field holds what the step writes there, or else what it held. -/
theorem get_run (claims : UserClaims) (step : ClaimsStep) (claim : Claim) :
    (step.run claims).2.get claim = (step.writes? claim).getD (claims.get claim) := by
  cases step with
  | setText name value => exact get_store claims name (.text value) claim
  | setFlag name value => exact get_store claims name (.flag value) claim
  | load text =>
    rw [run, writes?]
    cases UserClaims.parse? text <;> rfl
  | equals text =>
    rw [run, writes?]
    cases UserClaims.parse? text <;> rfl
  | reset => exact UserClaims.get_default claim

theorem lastWrite?_cons (step : ClaimsStep) (rest : List ClaimsStep) (claim : Claim) :
    lastWrite? (step :: rest) claim = (lastWrite? rest claim).or (step.writes? claim) := by
  unfold lastWrite?
  rw [List.reverse_cons, List.findSome?_append, List.findSome?_singleton]

/-- After a session every field holds what was written there last, or else what it held. -/
theorem get_after (claims : UserClaims) (steps : List ClaimsStep) (claim : Claim) :
    (after claims steps).get claim = (lastWrite? steps claim).getD (claims.get claim) := by
  induction steps generalizing claims with
  | nil => rfl
  | cons step rest ih =>
    rw [after_cons, ih, get_run, lastWrite?_cons]
    cases lastWrite? rest claim <;> rfl

/-- A step that does not answer that it took effect leaves the claim set as it was. -/
theorem run_of_refused {claims : UserClaims} {step : ClaimsStep}
    (refused : (step.run claims).1 ≠ .answered true) : (step.run claims).2 = claims := by
  cases step with
  | setText | setFlag => exact store_of_refused refused
  | load text =>
    rw [run] at refused ⊢
    cases loaded : UserClaims.parse? text with
    | none => rfl
    | some claims => simp [loaded] at refused
  | equals text =>
    rw [run]
    cases UserClaims.parse? text <;> rfl
  | reset => exact absurd rfl refused

theorem run_equals (claims : UserClaims) (text : String) :
    ((equals text).run claims).2 = claims := by
  rw [run]
  cases UserClaims.parse? text <;> rfl

/-! ## Steps that set a claim -/

/-- The answer to a step that sets a claim does not depend on the claim set. -/
theorem answer_of_target {step : ClaimsStep} {name : String} (target : step.target? = some name)
    (claims others : UserClaims) : (step.run claims).1 = (step.run others).1 := by
  cases step with
  | setText | setFlag => exact answer_store_congr claims others _ _
  | load | equals | reset => cases target

/-- A step that sets a claim writes in no other field. -/
theorem writes?_of_target {step : ClaimsStep} {name : String} (target : step.target? = some name)
    {claim : Claim} (other : claim.logicalName ≠ name) : step.writes? claim = none := by
  cases step with
  | setText | setFlag =>
    cases target
    exact if_neg fun own => other own.1
  | load | equals | reset => cases target

/-- Steps that set different claims may be taken in either order. -/
theorem after_comm (claims : UserClaims) {first second : ClaimsStep} {a b : String}
    (sets : first.target? = some a) (sets' : second.target? = some b) (apart : a ≠ b) :
    after claims [first, second] = after claims [second, first] := by
  apply UserClaims.ext_get
  intro claim
  have pair : ∀ one other : ClaimsStep,
      lastWrite? [one, other] claim = (other.writes? claim).or (one.writes? claim) := by
    intro one other
    rw [lastWrite?_cons, lastWrite?_cons]
    rfl
  rw [get_after, get_after, pair, pair]
  -- At most one of the two writes in this field.
  by_cases own : claim.logicalName = a
  · rw [writes?_of_target sets' (own ▸ apart), Option.none_or, Option.or_none]
  · rw [writes?_of_target sets own, Option.none_or, Option.or_none]

/-- After a session from the default claim set, every field holds the last value written there.
A value is written when it is stored by the name of a claim of its kind, and then for this claim
alone; a loaded claim set and a reset are written to all fields, and nothing else is written at
all. So values of different claims may be set in either order. -/
theorem last_write_wins (steps : List ClaimsStep) :
    (∀ claim, (after {} steps).get claim =
      (lastWrite? steps claim).getD (.absent claim.kind)) ∧
    (∀ (claim : Claim) (value : String),
      ((setText claim.logicalName value).run (after {} steps)).1 =
        .answered (decide (claim.kind = .text))) ∧
    (∀ (claim : Claim) (value : Bool),
      ((setFlag claim.logicalName value).run (after {} steps)).1 =
        .answered (decide (claim.kind = .boolean))) ∧
    (∀ (step : ClaimsStep) (name : String), step.target? = some name →
      (∀ claim : Claim, claim.logicalName ≠ name) →
      (step.run (after {} steps)).1 = .unknownClaim) ∧
    (∀ text loaded, UserClaims.parse? text = some loaded →
      (load text).run (after {} steps) = (.answered true, loaded)) ∧
    reset.run (after {} steps) = (.answered true, {}) ∧
    (∀ step : ClaimsStep,
      (step.run (after {} steps)).1 ≠ .answered true ∨ (∃ text, step = equals text) →
      (step.run (after {} steps)).2 = after {} steps) ∧
    (∀ (first second : ClaimsStep) (a b : Claim), a ≠ b →
      first.target? = some a.logicalName → second.target? = some b.logicalName →
      after (after {} steps) [first, second] = after (after {} steps) [second, first] ∧
        (runAll (after {} steps) [first, second]).map Prod.fst =
          ((runAll (after {} steps) [second, first]).map Prod.fst).reverse) := by
  refine ⟨fun claim => ?_, fun claim value => ?_, fun claim value => ?_, ?_, ?_, rfl, ?_, ?_⟩
  · rw [get_after, UserClaims.get_default]
  · rw [run, answer_store]
    exact congrArg ClaimsAnswer.answered (decide_eq_decide.mpr eq_comm)
  · rw [run, answer_store]
    exact congrArg ClaimsAnswer.answered (decide_eq_decide.mpr eq_comm)
  · intro step name target unknown
    cases step with
    | setText | setFlag =>
      cases target
      rw [run, store_of_unknown _ _ unknown]
    | load | equals | reset => cases target
  · intro text loaded parsed
    rw [run, parsed]
  · rintro step (refused | ⟨text, rfl⟩)
    · exact run_of_refused refused
    · exact run_equals _ text
  · intro first second a b apart sets sets'
    refine ⟨after_comm _ sets sets' fun same => apart (Claim.logicalName_injective same), ?_⟩
    simp only [runAll, List.map_cons, List.map_nil, List.reverse_cons, List.reverse_nil,
      List.nil_append, List.cons_append]
    rw [answer_of_target sets' (first.run (after {} steps)).2 (after {} steps),
      answer_of_target sets (second.run (after {} steps)).2 (after {} steps)]

example :
    after {} [setText "Email" "a@b", setFlag "Phone" true, setText "Nobody" "c",
      setFlag "EmailVerified" true, setText "Email" "d@e"] =
    { email := "d@e", emailVerified := true } := by decide

end IdentityClaims.ClaimsStep
