import IdentityClaims.Proofs.Resolution

/-!
# What resolving all claims gives

A payload that is an object is resolved unless a path is malformed; then every field holds what
its claim gives on its own. In every other case one claim decides the error: the first with a
malformed path, or the very first claim when the payload is no object.
-/

namespace IdentityClaims

open Json

/-- The first claim, in the order in which claims are resolved, whose path is malformed. -/
def Mapping.FirstMalformed (mapping : Mapping) (claim : Claim) : Prop :=
  ∃ earlier later, Claim.all = earlier ++ claim :: later ∧
    (∀ other ∈ earlier, ¬ Path.Malformed (mapping.pathOf other)) ∧
    Path.Malformed (mapping.pathOf claim)

theorem Mapping.exists_firstMalformed {mapping : Mapping}
    (some_malformed : ∃ claim, Path.Malformed (mapping.pathOf claim)) :
    ∃ claim, mapping.FirstMalformed claim := by
  obtain ⟨witness, malformed⟩ := some_malformed
  cases first : Claim.all.find? fun claim => Path.Malformed (mapping.pathOf claim) with
  | none =>
    have proper := List.find?_eq_none.mp first witness witness.mem_all
    exact absurd (decide_eq_true malformed) proper
  | some claim =>
    obtain ⟨holds, earlier, later, split, before⟩ := List.find?_eq_some_iff_append.mp first
    refine ⟨claim, earlier, later, split, fun other member => ?_, of_decide_eq_true holds⟩
    simpa using before other member

namespace Resolver

/-- The resolution fails for one claim: with the kind and the message of the error that the claim
gives on its own, in the context of the claim's name alone. -/
def FailsFor (resolver : Resolver) (payload : Value) (claim : Claim) (kind : FaultKind) : Prop :=
  ∃ error, resolver.resolveOne payload claim = .error error ∧ error.kind = kind ∧
    resolver.resolve payload =
      .error ⟨kind, error.message, some ("resolving " ++ claim.logicalName)⟩

variable {resolver : Resolver} {payload : Value} {claim : Claim}

theorem failsFor_of_fault {earlier later : List Claim} {fault : Fault}
    (split : Claim.all = earlier ++ claim :: later)
    (readable : ∀ other ∈ earlier, ∃ value, resolver.readOwn payload other = .ok value)
    (failed : resolver.readOwn payload claim = .error fault) :
    resolver.FailsFor payload claim fault.error.kind := by
  refine ⟨fault.error, ?_, rfl, ?_⟩
  · rw [resolveOne_eq, failed]
    rfl
  · unfold resolve
    rw [split, resolveEach_of_fault readable failed]
    rfl

theorem malformed_error_kind (fault : PathFault) :
    (Fault.malformed fault).error.kind = .malformedPath := by
  cases fault <;> rfl

theorem resolveOne_eq_ok_iff (resolver : Resolver) (payload : Value) (claim : Claim)
    (value : ClaimValue) :
    resolver.resolveOne payload claim = .ok value ↔
      resolver.readOwn payload claim = .ok value := by
  rw [resolveOne_eq]
  cases resolver.readOwn payload claim with
  | error fault => exact ⟨nofun, nofun⟩
  | ok read =>
    constructor
    · intro same
      cases same
      rfl
    · intro same
      cases same
      rfl

/-- An object is resolved when every path is proper, and then to the one claim set whose fields
are the answers to the calls on the claims alone. -/
theorem resolve_of_proper (object : payload.kind = .object)
    (proper : ∀ claim, ¬ Path.Malformed (resolver.mapping.pathOf claim)) :
    ∃ claims, resolver.resolve payload = .ok claims ∧
      ∀ fields : UserClaims,
        (∀ claim, resolver.resolveOne payload claim = .ok (fields.get claim)) ↔
          fields = claims := by
  have readable : ∀ claim ∈ Claim.all, ∃ value, resolver.readOwn payload claim = .ok value :=
    fun claim _ => ⟨_, readOwn_of_object object (proper claim)⟩
  obtain ⟨claims, resolved⟩ := resolveEach_of_readable readable {}
  refine ⟨claims, resolved, fun fields => ?_⟩
  simp only [resolveOne_eq_ok_iff]
  rw [← resolve_eq_ok_iff, resolve, resolved, Except.ok.injEq, eq_comm]

/-- An object is not resolved past the first malformed path. -/
theorem failsFor_of_firstMalformed (object : payload.kind = .object)
    (first : resolver.mapping.FirstMalformed claim) :
    resolver.FailsFor payload claim .malformedPath := by
  obtain ⟨earlier, later, split, before, malformed⟩ := first
  obtain ⟨fault, failed⟩ : ∃ fault, resolver.readOwn payload claim = .error (.malformed fault) :=
    readOwn_of_malformed malformed
  have readable : ∀ other ∈ earlier, ∃ value, resolver.readOwn payload other = .ok value :=
    fun other member => ⟨_, readOwn_of_object object (before other member)⟩
  rw [← malformed_error_kind fault]
  exact failsFor_of_fault split readable failed

/-- No other value is resolved past the very first claim, whose path is still judged first. -/
theorem failsFor_of_not_object (other : payload.kind ≠ .object) :
    resolver.FailsFor payload .subject
      (if Path.Malformed (resolver.mapping.pathOf .subject) then .malformedPath
        else .invalidRoot) := by
  have none_before : ∀ other ∈ ([] : List Claim),
      ∃ value, resolver.readOwn payload other = .ok value := by simp
  by_cases malformed : Path.Malformed (resolver.mapping.pathOf .subject)
  · obtain ⟨fault, failed⟩ :
        ∃ fault, resolver.readOwn payload .subject = .error (.malformed fault) :=
      readOwn_of_malformed malformed
    rw [if_pos malformed, ← malformed_error_kind fault]
    exact failsFor_of_fault rfl none_before failed
  · rw [if_neg malformed]
    exact failsFor_of_fault rfl none_before (readOwn_of_not_object other malformed)

/-- The exact meaning of a resolution, for every mapping and every payload. -/
theorem resolve_exact (mapping : Mapping) (payload : Value) :
    (payload.kind = .object → (∀ claim, ¬ Path.Malformed (mapping.pathOf claim)) →
      ∃ claims, resolve ⟨mapping⟩ payload = .ok claims ∧
        ∀ fields : UserClaims,
          (∀ claim, resolveOne ⟨mapping⟩ payload claim = .ok (fields.get claim)) ↔
            fields = claims) ∧
    (payload.kind = .object → (∃ claim, Path.Malformed (mapping.pathOf claim)) →
      ∃ claim, mapping.FirstMalformed claim ∧
        FailsFor ⟨mapping⟩ payload claim .malformedPath) ∧
    (payload.kind ≠ .object →
      FailsFor ⟨mapping⟩ payload .subject
        (if Path.Malformed (mapping.pathOf .subject) then .malformedPath else .invalidRoot)) := by
  refine ⟨fun object proper => ?_, fun object some_malformed => ?_, fun other => ?_⟩
  · exact resolve_of_proper object proper
  · obtain ⟨claim, first⟩ := Mapping.exists_firstMalformed some_malformed
    exact ⟨claim, first, failsFor_of_firstMalformed object first⟩
  · exact failsFor_of_not_object other

end Resolver

end IdentityClaims
