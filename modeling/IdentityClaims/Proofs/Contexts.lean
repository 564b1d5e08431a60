import IdentityClaims.Proofs.GeneratedErrors
import Mathlib.Data.List.Infix

/-!
# One context after the other

A context replaces the one before it, so of several contexts only the last one is left on an
error, and nothing but the context of an error ever changes. The text of an error shows exactly
the context that the error has. All of this is what the code does that is generated for the two
error types by `claimmap_error`.
-/

namespace IdentityClaims

open Contextual (within)
open ErrorEnum

/-- Error types in which a context replaces the one before it. -/
class ReplacesContext (ε : Type) [Contextual ε] : Prop where
  within_within : ∀ (error : ε) (first second : String),
    within (within error first) second = within error second

section Results

variable {ε α : Type} [Contextual ε]

/-- A result under one context after the other. -/
def afterContexts (result : Except ε α) (contexts : List String) : Except ε α :=
  contexts.foldl withContext result

/-- An error under a context, if there is one. -/
def withinLast (error : ε) : Option String → ε
  | none => error
  | some context => within error context

/-- The results on the way are those after the initial parts of the contexts. -/
theorem underContexts_eq (result : Except ε α) (contexts : List String) :
    underContexts result contexts = contexts.inits.map (afterContexts result) := by
  induction contexts generalizing result with
  | nil => rfl
  | cons context rest ih =>
    rw [underContexts, ih, List.inits_cons, List.map_cons, List.map_map]
    rfl

theorem afterContexts_ok (value : α) (contexts : List String) :
    afterContexts (.ok value : Except ε α) contexts = .ok value := by
  induction contexts with
  | nil => rfl
  | cons context rest ih => exact ih

/-- Of several contexts the last one is put on an error. -/
theorem afterContexts_error [ReplacesContext ε] (error : ε) (contexts : List String) :
    afterContexts (.error error : Except ε α) contexts =
      .error (withinLast error contexts.getLast?) := by
  induction contexts generalizing error with
  | nil => rfl
  | cons context rest ih =>
    have step : afterContexts (.error error : Except ε α) (context :: rest) =
        afterContexts (.error (within error context)) rest := rfl
    rw [step, ih, List.getLast?_cons]
    cases rest.getLast? with
    | none => rfl
    | some last => exact congrArg Except.error (ReplacesContext.within_within error context last)

end Results

/-! ## Texts -/

/-- A text with a title, a context in parentheses if there is one, and a detail. -/
structure Shows (text title : String) (context : Option String) (detail : String) : Prop where
  absent : context = none → text = title ++ ": " ++ detail
  present : ∀ c, context = some c → text = title ++ " (" ++ c ++ ")" ++ ": " ++ detail

theorem shows_contextSuffix (title : String) (context : Option String) (detail : String) :
    Shows (title ++ contextSuffix context ++ ": " ++ detail) title context detail where
  absent missing := by rw [missing, contextSuffix, String.append_empty]
  present c given := by simp only [given, contextSuffix, String.append_assoc]

theorem contextSuffix_injective {a b : Option String} (same : contextSuffix a = contextSuffix b) :
    a = b := by
  cases a with
  | none =>
    cases b with
    | none => rfl
    | some context => simp [contextSuffix] at same
  | some context =>
    cases b with
    | none => simp [contextSuffix] at same
    | some other => simpa [contextSuffix] using same

/-- Between the same title and the same detail a text shows one context only. -/
theorem append_contextSuffix_inj (title detail : String) (shown context : Option String) :
    title ++ contextSuffix shown ++ ": " ++ detail =
        title ++ contextSuffix context ++ ": " ++ detail ↔ shown = context := by
  constructor
  · intro same
    apply contextSuffix_injective
    simpa [String.append_assoc] using same
  · rintro rfl
    rfl

/-! ## The error types -/

instance : ReplacesContext IdentityError := ⟨fun _ _ _ => rfl⟩

instance : ReplacesContext WalkError := ⟨fun error _ _ => by cases error <;> rfl⟩

/-- A last context changes nothing of an error but its context. -/
theorem IdentityError.withinLast_eq (error : IdentityError) (last : Option String) :
    withinLast error last = { error with context := last.or error.context } := by
  cases last <;> rfl

theorem IdentityError.text_eq_iff (error : IdentityError) (context : Option String) :
    error.text = error.kind.title ++ contextSuffix context ++ ": " ++ error.message ↔
      error.context = context :=
  append_contextSuffix_inj error.kind.title error.message error.context context

namespace WalkError

variable {α : Type}

/-- Whether the variant of an error has a place for a context. -/
def takesContext : WalkError → Bool
  | .plain _ => false
  | .io .. | .malformed .. | .internal .. => true

theorem withinLast_plain (message : String) (last : Option String) :
    withinLast (plain message) last = plain message := by
  cases last <;> rfl

/-- A last context changes nothing of an error but its context, in the variants that have one. -/
theorem parts_withinLast (error : WalkError) (last : Option String) :
    (withinLast error last).variant = error.variant ∧
      (withinLast error last).title = error.title ∧
      (withinLast error last).detail = error.detail ∧
      (withinLast error last).source? = error.source? ∧
      (withinLast error last).context? =
        if error.takesContext then last.or error.context? else none := by
  cases last <;> cases error <;> exact ⟨rfl, rfl, rfl, rfl, rfl⟩

theorem text_eq_iff (error : WalkError) (context : Option String) :
    error.text = error.title ++ contextSuffix context ++ ": " ++ error.detail ↔
      error.context? = context :=
  append_contextSuffix_inj error.title error.detail error.context? context

theorem withinLast_io (cause : SourceError) (context last : Option String) :
    withinLast (io cause context) last = io cause (last.or context) := by
  cases last <;> rfl

theorem withinLast_malformed (message : String) (context last : Option String) :
    withinLast (malformed message context) last = malformed message (last.or context) := by
  cases last <;> rfl

theorem withinLast_internal (message : String) (context last : Option String) :
    withinLast (internal message context) last = internal message (last.or context) := by
  cases last <;> rfl

/-- A collaborator's failure under a context is that failure turned into an error first and put
under the context then. -/
theorem ofResult_eq (result : Except SourceError α) (context : String) :
    ofResult result context = withContext (result.mapError ofSource) context := by
  cases result <;> rfl

end WalkError

/-- Contexts leave successes alone. Of an error only the context changes: it is the last one put
on the error, or the one it had where none was put on it, and a variant without a place for it is
left as it was. The text shows the title of the variant, the context that the error has and no
other, and the message or the text of the source. A context on the failure of a collaborator is one
on the error that the failure is turned into. The code that is generated for the two enums does the
same: its arms put contexts on their errors, its implementations build them from texts and from
the failures of collaborators, and their formats give their texts. -/
theorem contexts_exact {α : Type} (contexts : List String) :
    (∀ {ε : Type} [Contextual ε] (result : Except ε α),
      underContexts result contexts = contexts.inits.map (afterContexts result)) ∧
    (∀ value : α,
      afterContexts (.ok value : Except IdentityError α) contexts = .ok value ∧
      afterContexts (.ok value : Except WalkError α) contexts = .ok value) ∧
    (∀ error : IdentityError, ∃ last : IdentityError,
      afterContexts (.error error : Except IdentityError α) contexts = .error last ∧
      last.kind = error.kind ∧ last.message = error.message ∧
      last.context = contexts.getLast?.or error.context ∧
      ∀ context, last.text = error.kind.title ++ contextSuffix context ++ ": " ++ error.message ↔
        last.context = context) ∧
    (∀ (message : String) (context : Option String),
      Shows (IdentityError.text ⟨.malformedPath, message, context⟩)
        "Malformed claim path" context message ∧
      Shows (IdentityError.text ⟨.invalidRoot, message, context⟩)
        "Invalid claim source" context message ∧
      Shows (IdentityError.text ⟨.internal, message, context⟩)
        "Internal identity error" context message) ∧
    (∀ error : WalkError, ∃ last : WalkError,
      afterContexts (.error error : Except WalkError α) contexts = .error last ∧
      last.variant = error.variant ∧ last.detail = error.detail ∧ last.source? = error.source? ∧
      last.context? = (if error.takesContext then contexts.getLast?.or error.context? else none) ∧
      ∀ context, last.text = error.title ++ contextSuffix context ++ ": " ++ error.detail ↔
        last.context? = context) ∧
    (∀ (cause : SourceError) (message : String) (context : Option String),
      afterContexts (.error (.io cause context) : Except WalkError α) contexts =
        .error (.io cause (contexts.getLast?.or context)) ∧
      afterContexts (.error (.plain message) : Except WalkError α) contexts =
        .error (.plain message) ∧
      afterContexts (.error (.malformed message context) : Except WalkError α) contexts =
        .error (.malformed message (contexts.getLast?.or context)) ∧
      afterContexts (.error (.internal message context) : Except WalkError α) contexts =
        .error (.internal message (contexts.getLast?.or context))) ∧
    (∀ (cause : SourceError) (message : String) (context : Option String),
      Shows (WalkError.io cause context).text "IO error" context cause.text ∧
      (WalkError.plain message).text = "Plain error: " ++ message ∧
      Shows (WalkError.malformed message context).text "Malformed path" context message ∧
      Shows (WalkError.internal message context).text "Internal walk error" context message) ∧
    (∀ (result : Except SourceError α) (context : String),
      WalkError.ofResult result context =
        withContext (result.mapError WalkError.ofSource) context) ∧
    identityEnum.Generates IdentityError.declared IdentityError.text IdentityError.ofMessage ∧
    shapesEnum.Generates WalkError.declared WalkError.text WalkError.ofMessage ∧
    (∀ (cause : SourceError) (context : String),
      shapesEnum.expansion.convert? ["SourceErr"] cause.text =
        some (WalkError.ofSource cause).declared ∧
      WalkError.ofResult (.error cause : Except SourceError α) context =
        .error (.io cause (some context)) ∧
      shapesEnum.expansion.contextOn? ["SourceErr"] cause.text context =
        some (WalkError.io cause (some context)).declared) := by
  refine ⟨fun result => underContexts_eq result contexts,
    fun value => ⟨afterContexts_ok value contexts, afterContexts_ok value contexts⟩,
    fun error => ?_, fun message context => ?_, fun error => ?_, fun cause message context => ?_,
    fun cause message context => ?_, WalkError.ofResult_eq, IdentityError.generates,
    WalkError.generates, fun cause context => ?_⟩
  · refine ⟨_, afterContexts_error error contexts, ?_⟩
    rw [IdentityError.withinLast_eq]
    exact ⟨rfl, rfl, rfl, IdentityError.text_eq_iff _⟩
  · exact ⟨shows_contextSuffix _ context message, shows_contextSuffix _ context message,
      shows_contextSuffix _ context message⟩
  · obtain ⟨variant, title, detail, source, context⟩ :=
      WalkError.parts_withinLast error contexts.getLast?
    refine ⟨_, afterContexts_error error contexts, variant, detail, source, context, ?_⟩
    rw [← title, ← detail]
    exact WalkError.text_eq_iff _
  · simp only [afterContexts_error, WalkError.withinLast_io, WalkError.withinLast_plain,
      WalkError.withinLast_malformed, WalkError.withinLast_internal, and_self]
  · exact ⟨shows_contextSuffix _ context cause.text, rfl, shows_contextSuffix _ context message,
      shows_contextSuffix _ context message⟩
  · exact ⟨WalkError.convert?_cause cause, rfl, WalkError.contextOn?_cause cause context⟩

end IdentityClaims
