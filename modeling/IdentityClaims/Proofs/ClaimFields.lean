import IdentityClaims.Claim.UserClaims

/-!
# The fields of a claim set

A value of a claim's kind is stored in the field of that claim and nowhere else, a value of another
kind is not stored at all (`set_string`, `set_boolean`), and the fields are all there is to a claim
set.
-/

namespace IdentityClaims

/-- What a value is written as is read back by the reader of its kind. -/
theorem ClaimKind.take_toJson (value : ClaimValue) :
    value.kind.reader.take value.toJson = some value := by
  cases value <;> rfl

/-- The reader of a kind takes nothing but values of that kind. -/
theorem ClaimKind.kind_of_take {kind : ClaimKind} {meaning : Json.Value} {value : ClaimValue}
    (taken : kind.reader.take meaning = some value) : value.kind = kind := by
  cases kind with
  | boolean =>
    obtain ⟨flag, -, rfl⟩ := Option.map_eq_some_iff.mp taken
    rfl
  | text =>
    obtain ⟨text, -, rfl⟩ := Option.map_eq_some_iff.mp taken
    rfl

theorem ClaimValue.kind_absent (kind : ClaimKind) : (ClaimValue.absent kind).kind = kind := by
  cases kind <;> rfl

namespace UserClaims

theorem kind_get (claims : UserClaims) (claim : Claim) : (claims.get claim).kind = claim.kind := by
  cases claim <;> rfl

theorem get_default (claim : Claim) : UserClaims.get {} claim = .absent claim.kind := by
  cases claim <;> rfl

/-- Claim sets with the same fields are the same. -/
theorem ext_get {a b : UserClaims} (same : ∀ claim, a.get claim = b.get claim) : a = b := by
  have fields : ∀ claim ∈ Claim.all, a.get claim = b.get claim := fun claim _ => same claim
  cases a
  cases b
  simpa [Claim.all, get] using fields

/-- A store is seen in the field of its claim and in no other. -/
theorem get_of_store? {claims next : UserClaims} {claim : Claim} {value : ClaimValue}
    (stored : claims.store? claim value = some next) (other : Claim) :
    next.get other = if other = claim then value else claims.get other := by
  cases value <;> cases claim <;> cases stored <;> cases other <;> rfl

/-- Exactly the values of a claim's own kind are stored. -/
theorem store?_isSome_iff (claims : UserClaims) (claim : Claim) (value : ClaimValue) :
    (claims.store? claim value).isSome ↔ value.kind = claim.kind := by
  cases value <;> cases claim <;>
    simp [store?, storeText?, storeFlag?, ClaimValue.kind, Claim.kind]

theorem exists_store? (claims : UserClaims) {claim : Claim} {value : ClaimValue}
    (own : value.kind = claim.kind) : ∃ next, claims.store? claim value = some next :=
  Option.isSome_iff_exists.mp ((claims.store?_isSome_iff claim value).mpr own)

theorem store?_of_kind_ne (claims : UserClaims) {claim : Claim} {value : ClaimValue}
    (other : value.kind ≠ claim.kind) : claims.store? claim value = none :=
  Option.not_isSome_iff_eq_none.mp (mt (claims.store?_isSome_iff claim value).mp other)

end UserClaims

end IdentityClaims
