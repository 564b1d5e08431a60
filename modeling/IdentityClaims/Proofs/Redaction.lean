import IdentityClaims.Proofs.Resolution

/-!
# What a payload cannot say

No path leads through a member whose name is empty or has a dot, and none into an array. So a
payload can be redacted, that is such members left out and arrays filled with anything, and every
reader and every resolver still answers the same, in the same words where it refuses.
-/

namespace IdentityClaims

open Json

namespace Json.Value

mutual

/-- The second value is the first one redacted: at every depth the members are left out whose names
no segment can be, and every array is replaced by some array. -/
inductive RedactsTo : Value → Value → Prop where
  | null : RedactsTo .null .null
  | boolean (flag : Bool) : RedactsTo (.boolean flag) (.boolean flag)
  | number (n : Number) : RedactsTo (.number n) (.number n)
  | string (text : String) : RedactsTo (.string text) (.string text)
  | array (items others : List Value) : RedactsTo (.array items) (.array others)
  | object {members shown : List (String × Value)} (each : MembersRedactTo members shown) :
      RedactsTo (.object members) (.object shown)

/-- The same of the members of an object. -/
inductive MembersRedactTo : List (String × Value) → List (String × Value) → Prop where
  | nil : MembersRedactTo [] []
  | leaveOut {name : String} {value : Value} {rest shown : List (String × Value)}
      (unreachable : name = "" ∨ '.' ∈ name.toList) (later : MembersRedactTo rest shown) :
      MembersRedactTo ((name, value) :: rest) shown
  | keep {name : String} {value other : Value} {rest shown : List (String × Value)}
      (reachable : ¬ (name = "" ∨ '.' ∈ name.toList)) (inner : RedactsTo value other)
      (later : MembersRedactTo rest shown) :
      MembersRedactTo ((name, value) :: rest) ((name, other) :: shown)

end

variable {payload shown : Value}

theorem RedactsTo.kind_eq (redacted : RedactsTo payload shown) : payload.kind = shown.kind := by
  cases redacted <;> rfl

theorem RedactsTo.members (redacted : RedactsTo payload shown) :
    MembersRedactTo payload.members shown.members := by
  cases redacted with
  | object each => exact each
  | _ => exact .nil

/-- Under a segment both hold a value or neither does. -/
theorem MembersRedactTo.get? {members shown : List (String × Value)}
    (redacted : MembersRedactTo members shown) {segment : String} (proper : IsSegment segment) :
    Option.Rel RedactsTo (Table.get? members segment) (Table.get? shown segment) := by
  induction members generalizing shown with
  | nil =>
    cases redacted
    exact .none
  | cons member rest ih =>
    obtain ⟨name, value⟩ := member
    cases redacted with
    | leaveOut unreachable later =>
      have apart : segment ≠ name := by
        rintro rfl
        exact unreachable.elim proper.1 proper.2
      rw [Table.get?_cons, if_neg apart]
      exact ih later
    | keep _ inner later =>
      rw [Table.get?_cons, Table.get?_cons]
      by_cases own : segment = name
      · rw [if_pos own, if_pos own]
        exact .some inner
      · rw [if_neg own, if_neg own]
        exact ih later

/-- Segments lead to a value in both or in neither. -/
theorem RedactsTo.find? (redacted : RedactsTo payload shown) {segments : List String}
    (proper : ∀ segment ∈ segments, IsSegment segment) :
    Option.Rel RedactsTo (payload.find? segments) (shown.find? segments) := by
  induction segments generalizing payload shown with
  | nil => exact .some redacted
  | cons segment rest ih =>
    obtain ⟨first, later⟩ := List.forall_mem_cons.mp proper
    -- The values of the members do not matter beyond the relation between them.
    have step := redacted.members.get? first
    rw [find?_cons, find?_cons]
    generalize Table.get? payload.members segment = next at step ⊢
    generalize Table.get? shown.members segment = other at step ⊢
    cases step with
    | none => exact .none
    | some inner => exact ih inner later

end Json.Value

namespace Reader

variable {α β : Type}

/-- A reader that takes a value and what it is redacted to for the same. -/
def IgnoresRedaction (reader : Reader α) : Prop :=
  ∀ value shown : Value, value.RedactsTo shown → reader.take value = reader.take shown

theorem boolean_ignoresRedaction : boolean.IgnoresRedaction := by
  intro value shown redacted
  cases redacted <;> rfl

theorem text_ignoresRedaction : text.IgnoresRedaction := by
  intro value shown redacted
  cases redacted <;> rfl

theorem IgnoresRedaction.map {reader : Reader α} (ignores : reader.IgnoresRedaction) (f : α → β) :
    (reader.map f).IgnoresRedaction := by
  intro value shown redacted
  exact congrArg (Option.map f) (ignores value shown redacted)

/-- Such a reader reads the same, at every path and with every fallback. -/
theorem get_of_redactsTo {reader : Reader α} (ignores : reader.IgnoresRedaction)
    {payload shown : Value} (redacted : payload.RedactsTo shown) (path : String) (fallback : α) :
    reader.get payload path fallback = reader.get shown path fallback := by
  -- A malformed path is refused whatever the payload, and a payload that is no object is refused
  -- for its kind, which redaction keeps.
  by_cases malformed : Path.Malformed path
  · obtain ⟨fault, failed⟩ := Path.parse_of_malformed malformed
    rw [get_of_fault reader fallback (Value.valueAt_of_parse payload failed),
      get_of_fault reader fallback (Value.valueAt_of_parse shown failed)]
  by_cases object : payload.kind = .object
  · have proper : ∀ piece ∈ Path.pieces path, IsSegment piece :=
      fun piece member => Path.isSegment_of_mem_pieces malformed member
    rw [get_of_object reader fallback object malformed,
      get_of_object reader fallback (redacted.kind_eq ▸ object) malformed]
    have reached := redacted.find? proper
    generalize payload.find? (Path.pieces path) = value at reached ⊢
    generalize shown.find? (Path.pieces path) = other at reached ⊢
    cases reached with
    | none => rfl
    | some inner => rw [Option.bind_some, Option.bind_some, ignores _ _ inner]
  · have other : shown.kind ≠ .object := redacted.kind_eq ▸ object
    rw [get_of_fault reader fallback (Value.valueAt_of_not_object object malformed),
      get_of_fault reader fallback (Value.valueAt_of_not_object other malformed),
      redacted.kind_eq]

end Reader

theorem ClaimKind.reader_ignoresRedaction (kind : ClaimKind) : kind.reader.IgnoresRedaction := by
  cases kind with
  | boolean => exact Reader.boolean_ignoresRedaction.map _
  | text => exact Reader.text_ignoresRedaction.map _

/-- A payload and what it is redacted to get the same answers from everything that reads them. -/
theorem Resolver.answers_of_redactsTo {payload shown : Value} (redacted : payload.RedactsTo shown) :
    (∀ path fallback, Reader.boolean.extract payload path fallback =
      Reader.boolean.extract shown path fallback) ∧
    (∀ path fallback, Reader.text.extract payload path fallback =
      Reader.text.extract shown path fallback) ∧
    ∀ mapping : Mapping,
      (∀ claim fallback, Resolver.extract ⟨mapping⟩ Reader.text payload claim fallback =
        Resolver.extract ⟨mapping⟩ Reader.text shown claim fallback) ∧
      (∀ claim fallback, Resolver.extract ⟨mapping⟩ Reader.boolean payload claim fallback =
        Resolver.extract ⟨mapping⟩ Reader.boolean shown claim fallback) ∧
      Resolver.resolve ⟨mapping⟩ payload = Resolver.resolve ⟨mapping⟩ shown := by
  have flags : ∀ path fallback, Reader.boolean.get payload path fallback =
      Reader.boolean.get shown path fallback :=
    Reader.get_of_redactsTo Reader.boolean_ignoresRedaction redacted
  have texts : ∀ path fallback, Reader.text.get payload path fallback =
      Reader.text.get shown path fallback :=
    Reader.get_of_redactsTo Reader.text_ignoresRedaction redacted
  refine ⟨fun path fallback => ?_, fun path fallback => ?_, fun mapping =>
    ⟨fun claim fallback => ?_, fun claim fallback => ?_, ?_⟩⟩
  · rw [Reader.extract, flags, Reader.extract]
  · rw [Reader.extract, texts, Reader.extract]
  · rw [Resolver.extract, read, texts, Resolver.extract, read]
  · rw [Resolver.extract, read, flags, Resolver.extract, read]
  · apply resolve_congr
    intro claim
    exact Reader.get_of_redactsTo claim.kind.reader_ignoresRedaction redacted _ _

/-- A payload with members that no path leads to, on two levels, and an array in the way of one. -/
def crowdedPayload : Value :=
  .object [("", .string "x"), ("user.name", .string "x"), ("name", .string "Ada"),
    ("user", .object [("e.mail", .null), ("email", .string "ada@engine"),
      ("0", .array [.object [("name", .boolean true)]])])]

/-- That payload without the members, and with another array. -/
def sparePayload : Value :=
  .object [("name", .string "Ada"),
    ("user", .object [("email", .string "ada@engine"), ("0", .array [])])]

theorem crowdedPayload_redactsTo : crowdedPayload.RedactsTo sparePayload := by
  apply Value.RedactsTo.object
  apply Value.MembersRedactTo.leaveOut (by decide)
  apply Value.MembersRedactTo.leaveOut (by decide)
  apply Value.MembersRedactTo.keep (by decide) (.string "Ada")
  refine Value.MembersRedactTo.keep (by decide) (.object ?_) .nil
  apply Value.MembersRedactTo.leaveOut (by decide)
  apply Value.MembersRedactTo.keep (by decide) (.string "ada@engine")
  exact Value.MembersRedactTo.keep (by decide) (.array _ _) .nil

theorem Resolver.answers_of_redactsTo_crowded :
    crowdedPayload.RedactsTo sparePayload ∧
      Reader.text.extract crowdedPayload "user.0.name" "none" =
        Reader.text.extract sparePayload "user.0.name" "none" ∧
      Resolver.resolve ⟨.ofPairs [("Email", "user.email"), ("Name", "user.name")]⟩
          crowdedPayload =
        Resolver.resolve ⟨.ofPairs [("Email", "user.email"), ("Name", "user.name")]⟩
          sparePayload := by
  obtain ⟨-, texts, resolvers⟩ := answers_of_redactsTo crowdedPayload_redactsTo
  exact ⟨crowdedPayload_redactsTo, texts "user.0.name" "none", (resolvers _).2.2⟩

end IdentityClaims
