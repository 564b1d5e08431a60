import IdentityClaims.Json.Value

/-!
# Log records

What an operation reports about its course, as values: a level (`trace`, `debug`, `info`), a
message and named fields. An operation returns the records in the order in which they arise.
-/

namespace IdentityClaims

inductive Level where
  | trace | debug | info
  deriving DecidableEq, Repr

def Level.name : Level → String
  | .trace => "TRACE"
  | .debug => "DEBUG"
  | .info => "INFO"

inductive Record where
  /-- A segment was to be looked up in something other than an object. -/
  | notTraversable (path segment : String) (found : Json.Kind)
  /-- An object has no member for a segment. -/
  | segmentAbsent (path segment : String)
  | notBoolean (path : String) (found : Json.Kind)
  | notScalar (path : String) (found : Json.Kind)
  | configuredPath (claim path : String)
  /-- A resolution of all claims begins. -/
  | resolving (overrides : Nat)
  | loading (path : String)
  | mappingLoaded (entries : Nat)
  | resolverInitialized
  deriving DecidableEq, Repr

namespace Record

def level : Record → Level
  | .notTraversable .. | .segmentAbsent .. | .notBoolean .. | .notScalar .. => .trace
  | .configuredPath .. => .debug
  | .resolving _ | .loading _ | .mappingLoaded _ | .resolverInitialized => .info

/-- Whether the record opens a span, which has a name in place of a message. -/
def isSpan : Record → Bool
  | .resolving _ => true
  | _ => false

/-- The message of a record, or the name of the span it opens. -/
def message : Record → String
  | .notTraversable .. => "Claim path is not traversable"
  | .segmentAbsent .. => "Claim path segment is absent"
  | .notBoolean .. => "Claim is not a boolean, using fallback"
  | .notScalar .. => "Claim is not a scalar, using fallback"
  | .configuredPath .. => "Using configured claim path"
  | .resolving _ => "resolve"
  | .loading path => "Loading config from " ++ path
  | .mappingLoaded _ => "Claim mapping loaded"
  | .resolverInitialized => "Identity claim resolver initialized"

def count (n : Nat) : String :=
  String.ofList (Number.digits n)

def fields : Record → List (String × String)
  | .notTraversable path segment found =>
    [("path", path), ("segment", segment), ("found", found.name)]
  | .segmentAbsent path segment => [("path", path), ("segment", segment)]
  | .notBoolean path found | .notScalar path found => [("path", path), ("found", found.name)]
  | .configuredPath claim path => [("claim", claim), ("path", path)]
  | .resolving overrides => [("overrides", count overrides)]
  | .mappingLoaded entries => [("entries", count entries)]
  | .loading _ | .resolverInitialized => []

end Record

end IdentityClaims
