import IdentityClaims.Proofs.ClaimFields
import IdentityClaims.Proofs.Reaching
import IdentityClaims.Proofs.SnakeCase
import IdentityClaims.Resolver

/-!
# Resolving claims in turn

A run over claims (`resolve`) is decided by the readings of the claims alone: it stops at the first
fault, and without one it stores every reading in the field of its claim. The paths and the payload
decide which readings have a fault.
-/

namespace IdentityClaims

open Json

/-- The path of a claim under a mapping: a non-empty entry under the claim's name, or else that
name in snake case. -/
def Mapping.pathOf (mapping : Mapping) (claim : Claim) : String :=
  ((mapping.get? claim.logicalName).filter (· ≠ "")).getD (Text.snakeCase claim.logicalName)

/-- Without a non-empty entry a claim is read from its field. -/
theorem Mapping.pathOf_of_unconfigured {mapping : Mapping} {claim : Claim}
    (unconfigured : ∀ path, mapping.get? claim.logicalName = some path → path = "") :
    mapping.pathOf claim = claim.field := by
  unfold pathOf
  rw [← claim.snakeCase_logicalName]
  cases entry : mapping.get? claim.logicalName with
  | none => rfl
  | some path => simp [unconfigured path entry, Option.filter]

namespace Resolver

variable {resolver : Resolver} {payload : Value} {claim : Claim}

theorem choose_path (resolver : Resolver) (claim : Claim) :
    (resolver.choose claim).path = resolver.mapping.pathOf claim := by
  unfold choose Mapping.choose Mapping.pathOf
  cases resolver.mapping.get? claim.logicalName with
  | none => rfl
  | some path => by_cases empty : path = "" <;> simp [empty, Option.filter]

/-- What a caller is told who asks for a claim by any reader: the answer, or the report of the
fault. -/
def extract {α : Type} (resolver : Resolver) (reader : Reader α) (payload : Value) (claim : Claim)
    (fallback : α) : Except IdentityError α :=
  (resolver.read reader payload claim fallback).mapError Fault.error

/-- The answer to the call on a claim alone: for a boolean claim the one about a flag with the
fallback `false`, for a text claim the one about a text with the empty fallback. -/
def resolveOne (resolver : Resolver) (payload : Value) (claim : Claim) :
    Except IdentityError ClaimValue :=
  match claim.kind with
  | .boolean =>
    ((resolver.read Reader.boolean payload claim false).mapError Fault.error).map .flag
  | .text => ((resolver.read Reader.text payload claim "").mapError Fault.error).map .text

/-! ## One reading -/

theorem readOwn_of_boolean (boolean : claim.kind = .boolean) :
    resolver.readOwn payload claim =
      (Reader.boolean.get payload (resolver.choose claim).path false).map .flag := by
  unfold readOwn read
  rw [boolean]
  exact Reader.get_map ClaimValue.flag _ _ _ false

theorem readOwn_of_text (text : claim.kind = .text) :
    resolver.readOwn payload claim =
      (Reader.text.get payload (resolver.choose claim).path "").map .text := by
  unfold readOwn read
  rw [text]
  exact Reader.get_map ClaimValue.text _ _ _ ""

/-- The reading of a claim within a run is the one it gets on its own. -/
theorem resolveOne_eq (resolver : Resolver) (payload : Value) (claim : Claim) :
    resolver.resolveOne payload claim = (resolver.readOwn payload claim).mapError Fault.error := by
  unfold resolveOne read
  cases kind : claim.kind with
  | boolean =>
    rw [readOwn_of_boolean kind]
    cases Reader.boolean.get payload (resolver.choose claim).path false <;> rfl
  | text =>
    rw [readOwn_of_text kind]
    cases Reader.text.get payload (resolver.choose claim).path "" <;> rfl

theorem kind_of_readOwn {value : ClaimValue} (read : resolver.readOwn payload claim = .ok value) :
    value.kind = claim.kind := by
  rcases Reader.get_eq_ok read with fallback | ⟨meaning, taken⟩
  · rw [fallback, ClaimValue.kind_absent]
  · exact ClaimKind.kind_of_take taken

theorem readOwn_of_object (object : payload.kind = .object)
    (proper : ¬ Path.Malformed (resolver.mapping.pathOf claim)) :
    resolver.readOwn payload claim =
      .ok (((payload.find? (Path.pieces (resolver.mapping.pathOf claim))).bind
        claim.kind.reader.take).getD (.absent claim.kind)) := by
  unfold readOwn read
  rw [choose_path]
  exact Reader.get_of_object _ _ object proper

theorem readOwn_of_malformed (malformed : Path.Malformed (resolver.mapping.pathOf claim)) :
    ∃ fault, resolver.readOwn payload claim = .error (.malformed fault) := by
  obtain ⟨fault, failed⟩ := Path.parse_of_malformed malformed
  unfold readOwn read
  rw [choose_path]
  exact ⟨fault, Reader.get_of_fault _ _ (Value.valueAt_of_parse payload failed)⟩

theorem readOwn_of_not_object (other : payload.kind ≠ .object)
    (proper : ¬ Path.Malformed (resolver.mapping.pathOf claim)) :
    resolver.readOwn payload claim =
      .error (.rootNotObject (resolver.mapping.pathOf claim) payload.kind) := by
  unfold readOwn read
  rw [choose_path]
  exact Reader.get_of_fault _ _ (Value.valueAt_of_not_object other proper)

/-! ## A run over claims -/

/-- A step of a run stores the reading in the field of its claim, over what was there. -/
theorem get_step (claims : UserClaims) {value : ClaimValue}
    (read : resolver.readOwn payload claim = .ok value) (other : Claim) :
    ((claims.store? claim value).getD claims).get other =
      if other = claim then value else claims.get other := by
  have stored : (claims.store? claim value).isSome :=
    (claims.store?_isSome_iff claim value).mpr (kind_of_readOwn read)
  obtain ⟨next, stored⟩ := Option.isSome_iff_exists.mp stored
  rw [stored, Option.getD_some]
  exact UserClaims.get_of_store? stored other

/-- A run gives exactly the claim set that has the readings of its claims in their fields and is
unchanged in all others. -/
theorem resolveEach_eq_ok_iff (resolver : Resolver) (payload : Value) (order : List Claim)
    (start claims : UserClaims) :
    resolver.resolveEach payload order start = .ok claims ↔
      (∀ claim ∈ order, resolver.readOwn payload claim = .ok (claims.get claim)) ∧
        ∀ claim ∉ order, claims.get claim = start.get claim := by
  induction order generalizing start with
  | nil =>
    simp only [resolveEach, Except.ok.injEq]
    constructor
    · rintro rfl
      simp
    · intro same
      exact UserClaims.ext_get fun claim => (same.2 claim (by simp)).symm
  | cons first rest ih =>
    cases read : resolver.readOwn payload first with
    | error fault => simp [resolveEach, read]
    | ok value =>
      have step := get_step start read
      rw [List.forall_mem_cons]
      simp only [resolveEach, read, ih, step, List.mem_cons, not_or]
      constructor
      · rintro ⟨readings, kept⟩
        refine ⟨⟨?_, readings⟩, fun other fresh => ?_⟩
        · -- A claim that comes again is read again, with the same answer.
          by_cases again : first ∈ rest
          · rw [← read, readings first again]
          · rw [kept first again, if_pos rfl]
        · rw [kept other fresh.2, if_neg fresh.1]
      · rintro ⟨⟨own, readings⟩, kept⟩
        refine ⟨readings, fun other fresh => ?_⟩
        by_cases same : other = first
        · rw [same, if_pos rfl, Except.ok.inj own]
        · rw [if_neg same, kept other ⟨same, fresh⟩]

/-- A run without faults gives a claim set. -/
theorem resolveEach_of_readable {order : List Claim}
    (readable : ∀ claim ∈ order, ∃ value, resolver.readOwn payload claim = .ok value)
    (start : UserClaims) : ∃ claims, resolver.resolveEach payload order start = .ok claims := by
  induction order generalizing start with
  | nil => exact ⟨start, rfl⟩
  | cons first rest ih =>
    obtain ⟨value, read⟩ := readable first List.mem_cons_self
    simp only [resolveEach, read]
    exact ih (fun claim member => readable claim (List.mem_cons_of_mem _ member)) _

/-- A run stops at the first fault, whatever it has stored and whatever is left. -/
theorem resolveEach_of_fault {earlier : List Claim} {fault : Fault}
    (readable : ∀ other ∈ earlier, ∃ value, resolver.readOwn payload other = .ok value)
    (failed : resolver.readOwn payload claim = .error fault) (later : List Claim)
    (start : UserClaims) :
    resolver.resolveEach payload (earlier ++ claim :: later) start =
      .error (claimError claim fault) := by
  induction earlier generalizing start with
  | nil => simp [resolveEach, failed]
  | cons first rest ih =>
    obtain ⟨value, read⟩ := readable first List.mem_cons_self
    simp only [List.cons_append, resolveEach, read]
    exact ih (fun other member => readable other (List.mem_cons_of_mem _ member)) _

/-- Resolvers that read the claims alike, each from its own payload, run alike. -/
theorem resolveEach_congr {other : Resolver} {shown : Value} {order : List Claim}
    (same : ∀ claim ∈ order, resolver.readOwn payload claim = other.readOwn shown claim)
    (start : UserClaims) :
    resolver.resolveEach payload order start = other.resolveEach shown order start := by
  induction order generalizing start with
  | nil => rfl
  | cons first rest ih =>
    have later := ih fun claim member => same claim (List.mem_cons_of_mem _ member)
    simp only [resolveEach, same first List.mem_cons_self]
    cases other.readOwn shown first with
    | error fault => rfl
    | ok value => exact later _

/-! ## All claims -/

theorem resolve_congr {other : Resolver} {shown : Value}
    (same : ∀ claim, resolver.readOwn payload claim = other.readOwn shown claim) :
    resolver.resolve payload = other.resolve shown :=
  resolveEach_congr (fun claim _ => same claim) {}

theorem resolve_eq_ok_iff (resolver : Resolver) (payload : Value) (claims : UserClaims) :
    resolver.resolve payload = .ok claims ↔
      ∀ claim, resolver.readOwn payload claim = .ok (claims.get claim) := by
  unfold resolve
  rw [resolveEach_eq_ok_iff]
  exact ⟨fun run claim => run.1 claim claim.mem_all,
    fun readings => ⟨fun claim _ => readings claim, fun claim out => absurd claim.mem_all out⟩⟩

end Resolver

end IdentityClaims
