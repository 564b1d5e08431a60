import IdentityClaims.Fault

/-!
# Contexts of errors

A caller may say in what context an operation failed (`context`). The context replaces an earlier
one; successes pass through, and so do errors that have no place for a context. Conversions and
contexts are those that `claimmap_error` generates.
-/

namespace IdentityClaims

class Contextual (ε : Type) where
  within : ε → String → ε

instance : Contextual IdentityError := ⟨IdentityError.within⟩

variable {ε α : Type} [Contextual ε]

/-- The same result, its error under a context. -/
def withContext (result : Except ε α) (context : String) : Except ε α :=
  result.mapError (Contextual.within · context)

/-- A result, and what it becomes under one context after the other. -/
def underContexts (result : Except ε α) : List String → List (Except ε α)
  | [] => [result]
  | context :: rest => result :: underContexts (withContext result context) rest

/-- The failure of a collaborator, known by its text alone. -/
structure SourceError where
  text : String
  deriving DecidableEq, Repr

/-- An error type with every shape a variant may have: with a source, with a context, with both
and with neither. -/
inductive WalkError where
  | io (cause : SourceError) (context : Option String)
  | plain (message : String)
  | malformed (message : String) (context : Option String)
  | internal (message : String) (context : Option String)
  deriving DecidableEq, Repr

namespace WalkError

def variant : WalkError → String
  | .io .. => "Io"
  | .plain _ => "Plain"
  | .malformed .. => "Malformed"
  | .internal .. => "Internal"

def title : WalkError → String
  | .io .. => "IO error"
  | .plain _ => "Plain error"
  | .malformed .. => "Malformed path"
  | .internal .. => "Internal walk error"

def context? : WalkError → Option String
  | .io _ context | .malformed _ context | .internal _ context => context
  | .plain _ => none

def source? : WalkError → Option SourceError
  | .io cause _ => some cause
  | _ => none

def detail : WalkError → String
  | .io cause _ => cause.text
  | .plain message | .malformed message _ | .internal message _ => message

/-- The whole text of an error. -/
def text (error : WalkError) : String :=
  error.title ++ contextSuffix error.context? ++ ": " ++ error.detail

def within : WalkError → String → WalkError
  | .io cause _, context => .io cause (some context)
  | .plain message, _ => .plain message
  | .malformed message _, context => .malformed message (some context)
  | .internal message _, context => .internal message (some context)

instance : Contextual WalkError := ⟨within⟩

/-- The failure of a collaborator as an error of this type. -/
def ofSource (cause : SourceError) : WalkError := .io cause none

def ofMessage (message : String) : WalkError := .internal message none

/-- A collaborator's result, its failure turned into an error under a context. -/
def ofResult (result : Except SourceError α) (context : String) : Except WalkError α :=
  result.mapError fun cause => .io cause (some context)

end WalkError

end IdentityClaims
