import IdentityClaims.Claim.Decoding

/-!
# Sessions on a claim set

A session starts from the default claim set. Each step either writes to it (`set_string`,
`set_boolean`) or leaves it as it was, and answers what came of the attempt.
-/

namespace IdentityClaims

inductive ClaimsStep where
  | setText (claim value : String)
  | setFlag (claim : String) (value : Bool)
  | load (text : String)
  | equals (text : String)
  | reset
  deriving DecidableEq, Repr

inductive ClaimsAnswer where
  /-- Whether the step took effect, or the comparison held. -/
  | answered (value : Bool)
  | unknownClaim
  | undecodable
  deriving DecidableEq, Repr

namespace ClaimsStep

/-- Stores a value of a claim given by its name. A value of the wrong kind is not stored. -/
def store (claims : UserClaims) (name : String) (value : ClaimValue) : ClaimsAnswer × UserClaims :=
  match Claim.ofName? name with
  | none => (.unknownClaim, claims)
  | some claim =>
    match claims.store? claim value with
    | some claims => (.answered true, claims)
    | none => (.answered false, claims)

/-- The answer to a step, and the claim set after it. -/
def run (claims : UserClaims) : ClaimsStep → ClaimsAnswer × UserClaims
  | .setText claim value => store claims claim (.text value)
  | .setFlag claim value => store claims claim (.flag value)
  | .load text =>
    match UserClaims.parse? text with
    | some loaded => (.answered true, loaded)
    | none => (.undecodable, claims)
  | .equals text =>
    match UserClaims.parse? text with
    | some other => (.answered (decide (claims = other)), claims)
    | none => (.undecodable, claims)
  | .reset => (.answered true, {})

/-- The answers to a list of steps, each with the claim set after it. -/
def runAll (claims : UserClaims) : List ClaimsStep → List (ClaimsAnswer × UserClaims)
  | [] => []
  | step :: rest =>
    let outcome := step.run claims
    outcome :: runAll outcome.2 rest

end ClaimsStep

end IdentityClaims
