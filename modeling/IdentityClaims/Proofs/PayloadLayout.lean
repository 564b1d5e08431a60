import IdentityClaims.Proofs.Resolution
import IdentityClaims.Proofs.Writing

/-!
# Payloads laid out by a mapping

A claim set is written into a payload field by field, each at the path of its claim. As long as
no path continues another one, no write disturbs an earlier one, and the resolver of the mapping
reads the claim set back.
-/

namespace IdentityClaims

open Json

/-- The payload with fields of a claim set written into it, each at the path of its claim, one
claim after the other. -/
def Mapping.layOut (mapping : Mapping) (claims : UserClaims) : List Claim → Value → Value
  | [], payload => payload
  | claim :: rest, payload =>
    mapping.layOut claims rest
      (payload.put (Path.pieces (mapping.pathOf claim)) (claims.get claim).toJson)

namespace Mapping

/-- No path of a claim continues, or is, the path of another claim. -/
def Apart (mapping : Mapping) : Prop :=
  ∀ a b, a ≠ b → ¬ Path.pieces (mapping.pathOf a) <+: Path.pieces (mapping.pathOf b)

variable {mapping : Mapping}

theorem kind_layOut (mapping : Mapping) (claims : UserClaims) (order : List Claim)
    {payload : Value} (object : payload.kind = .object) :
    (mapping.layOut claims order payload).kind = .object := by
  induction order generalizing payload with
  | nil => exact object
  | cons claim rest ih => exact ih (Value.kind_put (List.cons_ne_nil _ _) _ _)

/-- Writing other claims leaves what is found at the path of a claim. -/
theorem find?_layOut_of_not_mem (apart : mapping.Apart) (claims : UserClaims) {claim : Claim}
    {order : List Claim} (unwritten : claim ∉ order) (payload : Value) :
    (mapping.layOut claims order payload).find? (Path.pieces (mapping.pathOf claim)) =
      payload.find? (Path.pieces (mapping.pathOf claim)) := by
  induction order generalizing payload with
  | nil => rfl
  | cons first rest ih =>
    have different : claim ≠ first := fun same => unwritten (same ▸ List.mem_cons_self)
    have later : claim ∉ rest := fun member => unwritten (List.mem_cons_of_mem _ member)
    rw [layOut, ih later]
    exact Value.find?_put_apart (apart _ _ different) (apart _ _ different.symm) _ _

/-- Every claim that is written is found with its own field. -/
theorem find?_layOut_of_mem (apart : mapping.Apart) (claims : UserClaims) {claim : Claim}
    {order : List Claim} (written : claim ∈ order) (payload : Value) :
    (mapping.layOut claims order payload).find? (Path.pieces (mapping.pathOf claim)) =
      some (claims.get claim).toJson := by
  induction order generalizing payload with
  | nil => cases written
  | cons first rest ih =>
    by_cases later : claim ∈ rest
    · exact ih later _
    · have own : claim = first := (List.mem_cons.mp written).resolve_right later
      rw [layOut, find?_layOut_of_not_mem apart claims later, own]
      exact Value.find?_put_self _ _ _

end Mapping

/-- A claim set is read back from every payload that it was laid out in. -/
theorem Resolver.resolve_layOut (mapping : Mapping) (claims : UserClaims)
    (entries : List (String × Value)) (order : List Claim)
    (proper : ∀ claim, ¬ Path.Malformed (mapping.pathOf claim)) (apart : mapping.Apart)
    (complete : order.Perm Claim.all) :
    Resolver.resolve ⟨mapping⟩ (mapping.layOut claims order (.object entries)) = .ok claims := by
  rw [resolve_eq_ok_iff]
  intro claim
  have object : (mapping.layOut claims order (.object entries)).kind = .object :=
    Mapping.kind_layOut mapping claims order rfl
  have written : claim ∈ order := complete.mem_iff.mpr claim.mem_all
  rw [readOwn_of_object object (proper claim), Mapping.find?_layOut_of_mem apart claims written,
    ← claims.kind_get claim, Option.bind_some, ClaimKind.take_toJson, Option.getD_some]

/-! The statement at a mapping with two claims side by side below one member. -/

/-- The contact of a user below one member; an empty entry and an unknown name change nothing. -/
def contactMapping : Mapping :=
  .ofPairs [("Email", "contact.email"), ("EmailVerified", "contact.checks.email"), ("Name", ""),
    ("Nobody", "..")]

/-- The paths under that mapping. -/
def contactPath : Claim → String
  | .email => "contact.email"
  | .emailVerified => "contact.checks.email"
  | claim => claim.field

theorem pathOf_contactMapping (claim : Claim) :
    contactMapping.pathOf claim = contactPath claim := by
  have plain : ∀ claim ∈ Claim.all, claim ≠ .email → claim ≠ .emailVerified →
      contactPath claim = claim.field ∧
        (contactMapping.get? claim.logicalName = none ∨
          contactMapping.get? claim.logicalName = some "") := by decide
  by_cases email : claim = .email
  · rw [email]
    rfl
  by_cases verified : claim = .emailVerified
  · rw [verified]
    rfl
  obtain ⟨field, entries⟩ := plain claim claim.mem_all email verified
  rw [field]
  apply Mapping.pathOf_of_unconfigured
  intro path entry
  rcases entries with absent | empty
  · rw [absent] at entry
    cases entry
  · rw [empty] at entry
    exact (Option.some.inj entry).symm

theorem contactMapping_proper (claim : Claim) :
    ¬ Path.Malformed (contactMapping.pathOf claim) := by
  have proper : ∀ claim ∈ Claim.all, ¬ Path.Malformed (contactPath claim) := by decide +kernel
  rw [pathOf_contactMapping]
  exact proper claim claim.mem_all

theorem contactMapping_apart : contactMapping.Apart := by
  have apart : ∀ a ∈ Claim.all, ∀ b ∈ Claim.all, a ≠ b →
      ¬ Path.pieces (contactPath a) <+: Path.pieces (contactPath b) := by decide +kernel
  intro a b different
  rw [pathOf_contactMapping, pathOf_contactMapping]
  exact apart a a.mem_all b b.mem_all different

/-- Neither a text where a member is needed nor an order against the declaration matters. -/
theorem Resolver.resolve_layOut_contact :
    (∀ claim, ¬ Path.Malformed (contactMapping.pathOf claim)) ∧ contactMapping.Apart ∧
      Claim.all.reverse.Perm Claim.all ∧
      Resolver.resolve ⟨contactMapping⟩
          (contactMapping.layOut
            { name := "Ada", email := "ada@engine", emailVerified := true } Claim.all.reverse
            (.object [("contact", .string "flat"), ("name", .null)])) =
        .ok { name := "Ada", email := "ada@engine", emailVerified := true } :=
  ⟨contactMapping_proper, contactMapping_apart, List.reverse_perm _,
    resolve_layOut contactMapping _ _ _ contactMapping_proper contactMapping_apart
      (List.reverse_perm _)⟩

end IdentityClaims
