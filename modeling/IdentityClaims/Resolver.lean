import IdentityClaims.Claim.UserClaims
import IdentityClaims.Mapping

/-!
# Resolution of claims

A resolver (`ClaimResolver`) reads standard claims from a payload, each at the path its mapping
chooses. Resolving all of them stops at the first fault, which is then reported in the context of
its claim.
-/

namespace IdentityClaims

/-- A resolver is the mapping it chooses paths by. -/
structure Resolver where
  mapping : Mapping
  deriving Repr

namespace Resolver

/-- The path of a claim (`path_for`). -/
def choose (resolver : Resolver) (claim : Claim) : PathChoice :=
  resolver.mapping.choose claim.logicalName

variable {α : Type}

/-- Reads a claim by any reader (`resolve_string`, `resolve_boolean`); the claim's own kind is not
consulted. -/
def read (resolver : Resolver) (reader : Reader α) (payload : Json.Value) (claim : Claim)
    (fallback : α) : Except Fault α :=
  reader.get payload (resolver.choose claim).path fallback

/-- The records of reading a claim: the choice of its path, then the reading itself. -/
def readLog (resolver : Resolver) (reader : Reader α) (payload : Json.Value) (claim : Claim) :
    List Record :=
  resolver.mapping.choiceLog claim.logicalName ++ reader.log payload (resolver.choose claim).path

def readOwn (resolver : Resolver) (payload : Json.Value) (claim : Claim) :
    Except Fault ClaimValue :=
  resolver.read claim.kind.reader payload claim (.absent claim.kind)

/-- The report of a fault that a claim's path met (`with_claim`). -/
def claimError (claim : Claim) (fault : Fault) : IdentityError :=
  fault.error.within ("resolving " ++ claim.logicalName)

/-- Reads claims in turn into a claim set, up to the first fault. -/
def resolveEach (resolver : Resolver) (payload : Json.Value) :
    List Claim → UserClaims → Except IdentityError UserClaims
  | [], claims => .ok claims
  | claim :: rest, claims =>
    match resolver.readOwn payload claim with
    | .error fault => .error (claimError claim fault)
    | .ok value => resolver.resolveEach payload rest ((claims.store? claim value).getD claims)

/-- Resolves every standard claim (`resolve`). -/
def resolve (resolver : Resolver) (payload : Json.Value) : Except IdentityError UserClaims :=
  resolver.resolveEach payload Claim.all {}

/-- The records of reading claims in turn; none come after the first fault. -/
def resolveEachLog (resolver : Resolver) (payload : Json.Value) : List Claim → List Record
  | [] => []
  | claim :: rest =>
    resolver.readLog claim.kind.reader payload claim ++
      match resolver.readOwn payload claim with
      | .error _ => []
      | .ok _ => resolver.resolveEachLog payload rest

def resolveLog (resolver : Resolver) (payload : Json.Value) : List Record :=
  .resolving resolver.mapping.size :: resolver.resolveEachLog payload Claim.all

end Resolver

end IdentityClaims
