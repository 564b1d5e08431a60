import IdentityClaims.Resolver

/-!
# Calls on a resolver

The questions a resolver answers (`path_for`, `resolve_string`, `resolve_boolean`, `resolve` and
`mapping`), with claims given by their logical names.
-/

namespace IdentityClaims

inductive Call where
  | path (claim : String)
  | text (claim fallback : String)
  | flag (claim : String) (fallback : Bool)
  | everything
  | mapping
  deriving DecidableEq, Repr

inductive CallAnswer where
  | path (choice : PathChoice)
  | text (result : Except IdentityError String)
  | flag (result : Except IdentityError Bool)
  | claims (result : Except IdentityError UserClaims)
  | mapping (mapping : Mapping)
  | unknownClaim

namespace Resolver

def answerAbout (claim : String) (answer : Claim → CallAnswer) : CallAnswer :=
  match Claim.ofName? claim with
  | some claim => answer claim
  | none => .unknownClaim

/-- The answer to a call on a payload. -/
def answer (resolver : Resolver) (payload : Json.Value) : Call → CallAnswer
  | .path claim => answerAbout claim fun claim => .path (resolver.choose claim)
  | .text claim fallback => answerAbout claim fun claim =>
    .text ((resolver.read Reader.text payload claim fallback).mapError Fault.error)
  | .flag claim fallback => answerAbout claim fun claim =>
    .flag ((resolver.read Reader.boolean payload claim fallback).mapError Fault.error)
  | .everything => .claims (resolver.resolve payload)
  | .mapping => .mapping resolver.mapping

def answerLog (resolver : Resolver) (payload : Json.Value) : Call → List Record
  | .path claim => (Claim.ofName? claim).elim [] fun claim =>
    resolver.mapping.choiceLog claim.logicalName
  | .text claim _ => (Claim.ofName? claim).elim [] (resolver.readLog Reader.text payload)
  | .flag claim _ => (Claim.ofName? claim).elim [] (resolver.readLog Reader.boolean payload)
  | .everything => resolver.resolveLog payload
  | .mapping => []

end Resolver

end IdentityClaims
