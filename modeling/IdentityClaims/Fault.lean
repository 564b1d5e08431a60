import IdentityClaims.Json.Value
import IdentityClaims.Path

/-!
# Faults of an extraction

Absent claims and claims of the wrong type are no faults. What remains is a text that is no path
and a payload that is no object. An identity error (`IdentityError`) is the report of a fault;
callers may put a context on it.
-/

namespace IdentityClaims

inductive FaultKind where
  | malformedPath | invalidRoot | internal
  deriving DecidableEq, Repr

namespace FaultKind

def name : FaultKind → String
  | .malformedPath => "MalformedPath"
  | .invalidRoot => "InvalidRoot"
  | .internal => "Internal"

def title : FaultKind → String
  | .malformedPath => "Malformed claim path"
  | .invalidRoot => "Invalid claim source"
  | .internal => "Internal identity error"

end FaultKind

/-- A context in parentheses, as `format_context` writes it; without one nothing is written, not
even a blank. -/
def contextSuffix : Option String → String
  | none => ""
  | some context => " (" ++ context ++ ")"

/-- The report of a fault. -/
structure IdentityError where
  kind : FaultKind
  message : String
  context : Option String
  deriving DecidableEq, Repr

namespace IdentityError

def text (error : IdentityError) : String :=
  error.kind.title ++ contextSuffix error.context ++ ": " ++ error.message

/-- The error under another context, which replaces the one it had. -/
def within (error : IdentityError) (context : String) : IdentityError :=
  { error with context := some context }

def ofMessage (message : String) : IdentityError :=
  ⟨.internal, message, none⟩

end IdentityError

/-- Why nothing can be extracted at all. -/
inductive Fault where
  | malformed (fault : PathFault)
  | rootNotObject (path : String) (found : Json.Kind)
  deriving DecidableEq, Repr

/-- The report of a fault. The path is its context when the payload is to blame. -/
def Fault.error : Fault → IdentityError
  | .malformed .emptyPath => ⟨.malformedPath, "empty path", none⟩
  | .malformed (.emptySegment path) => ⟨.malformedPath, "empty segment in '" ++ path ++ "'", none⟩
  | .rootNotObject path found =>
    ⟨.invalidRoot, "expected an object, found " ++ found.name, some path⟩

end IdentityClaims
