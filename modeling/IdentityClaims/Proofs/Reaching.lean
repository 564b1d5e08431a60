import IdentityClaims.Extraction
import IdentityClaims.Proofs.PathGrammar

/-!
# What a path reaches

A value is reached through a chain of members, one for each segment of the path. A walk finds
the value that is reached and nothing else; a reader sees it, or else a fault that is decided by
the text of the path and the kind of the root alone.
-/

namespace IdentityClaims

open Json

namespace Json.Value

/-- The members of an object; no other value has any. -/
def members : Value → List (String × Value)
  | .object members => members
  | _ => []

/-- A chain of members from a value down, one for each segment. -/
inductive Reaches : Value → List String → Value → Prop where
  | here (value : Value) : Reaches value [] value
  | member {members : List (String × Value)} {segment : String} {rest : List String}
      {next value : Value} (found : Table.get? members segment = some next)
      (below : Reaches next rest value) :
      Reaches (.object members) (segment :: rest) value

/-- The value that segments lead to, if they lead to one. -/
def find? (root : Value) (segments : List String) : Option Value :=
  (root.walk segments).toOption

@[simp] theorem find?_nil (root : Value) : root.find? [] = some root := rfl

/-- One step of a walk; a value without members ends it. -/
theorem find?_cons (root : Value) (segment : String) (rest : List String) :
    root.find? (segment :: rest) =
      (Table.get? root.members segment).bind fun next => next.find? rest := by
  cases root with
  | object entries =>
    simp only [find?, walk, members]
    cases Table.get? entries segment <;> rfl
  | _ => rfl

theorem find?_singleton (root : Value) (segment : String) :
    root.find? [segment] = Table.get? root.members segment := by
  rw [find?_cons]
  cases Table.get? root.members segment <;> rfl

/-- A walk over two lists of segments goes on where the first one has led to. -/
theorem find?_append (root : Value) (segments further : List String) :
    root.find? (segments ++ further) = (root.find? segments).bind fun next => next.find? further := by
  induction segments generalizing root with
  | nil => rfl
  | cons segment rest ih =>
    rw [List.cons_append, find?_cons, find?_cons]
    cases Table.get? root.members segment with
    | none => rfl
    | some next => exact ih next

/-- Nothing lies below a value that is no object. -/
theorem find?_of_not_object {value : Value} (other : value.kind ≠ .object)
    {segments : List String} (nonempty : segments ≠ []) : value.find? segments = none := by
  cases segments with
  | nil => exact absurd rfl nonempty
  | cons segment rest =>
    cases value with
    | object => exact absurd rfl other
    | _ => rfl

/-- A walk finds exactly the value that is reached. -/
theorem find?_eq_some_iff (root value : Value) (segments : List String) :
    root.find? segments = some value ↔ Reaches root segments value := by
  constructor
  · intro found
    induction segments generalizing root with
    | nil =>
      cases found
      exact .here _
    | cons segment rest ih =>
      rw [find?_cons, Option.bind_eq_some_iff] at found
      obtain ⟨next, step, below⟩ := found
      cases root with
      | object entries => exact .member step (ih next below)
      | _ => cases step
  · intro reached
    induction reached with
    | here => rfl
    | member step _ ih => rw [find?_cons, members, step, Option.bind_some, ih]

/-- Only an object has anything below it. -/
theorem Reaches.kind_of_ne_nil {root value : Value} {segments : List String}
    (reached : root.Reaches segments value) (nonempty : segments ≠ []) : root.kind = .object := by
  cases reached with
  | here => exact absurd rfl nonempty
  | member => rfl

theorem valueAt_of_parse {path : String} {fault : PathFault} (root : Value)
    (failed : Path.parse path = .error fault) : root.valueAt path = .error (.malformed fault) := by
  unfold valueAt
  rw [failed]

theorem valueAt_of_not_object {root : Value} {path : String} (other : root.kind ≠ .object)
    (proper : ¬ Path.Malformed path) :
    root.valueAt path = .error (.rootNotObject path root.kind) := by
  obtain ⟨parsed, read, _⟩ := Path.parse_of_proper proper
  unfold valueAt
  rw [read]
  cases root with
  | object => exact absurd rfl other
  | _ => rfl

theorem valueAt_of_object {root : Value} {path : String} (object : root.kind = .object)
    (proper : ¬ Path.Malformed path) :
    root.valueAt path = .ok (root.walk (Path.pieces path)) := by
  obtain ⟨parsed, read, segments⟩ := Path.parse_of_proper proper
  unfold valueAt
  rw [read, ← segments]
  cases root with
  | object => rfl
  | _ => cases object

end Json.Value

namespace Reader

variable {α β : Type}

/-- What a caller of a reader is told: the answer, or the report of the fault. -/
def extract (reader : Reader α) (root : Value) (path : String) (fallback : α) :
    Except IdentityError α :=
  (reader.get root path fallback).mapError Fault.error

/-- A reading is the walk, then what the reader takes the value for, then the fallback. -/
theorem get_eq (reader : Reader α) (root : Value) (path : String) (fallback : α) :
    reader.get root path fallback =
      (root.valueAt path).map fun walked => (walked.toOption.bind reader.take).getD fallback := by
  unfold get outcome
  cases root.valueAt path with
  | error fault => rfl
  | ok walked =>
    cases walked with
    | error obstacle => rfl
    | ok value => cases taken : reader.take value <;> simp [Except.map, Except.toOption, taken]

theorem get_of_fault {root : Value} {path : String} {fault : Fault} (reader : Reader α)
    (fallback : α) (failed : root.valueAt path = .error fault) :
    reader.get root path fallback = .error fault := by
  rw [get_eq, failed]
  rfl

/-- A path of an object is always answered: by what the reader takes the value reached for, or
by the fallback. -/
theorem get_of_object {root : Value} {path : String} (reader : Reader α) (fallback : α)
    (object : root.kind = .object) (proper : ¬ Path.Malformed path) :
    reader.get root path fallback =
      .ok (((root.find? (Path.pieces path)).bind reader.take).getD fallback) := by
  rw [get_eq, Value.valueAt_of_object object proper]
  rfl

/-- An answer is the fallback or was taken from a value. -/
theorem get_eq_ok {reader : Reader α} {root : Value} {path : String} {fallback answer : α}
    (answered : reader.get root path fallback = .ok answer) :
    answer = fallback ∨ ∃ value, reader.take value = some answer := by
  rw [get_eq] at answered
  cases walk : root.valueAt path with
  | error fault =>
    rw [walk] at answered
    cases answered
  | ok walked =>
    rw [walk] at answered
    have told : (walked.toOption.bind reader.take).getD fallback = answer :=
      Except.ok.inj answered
    cases taken : walked.toOption.bind reader.take with
    | none =>
      rw [taken, Option.getD_none] at told
      exact .inl told.symm
    | some read =>
      rw [taken, Option.getD_some] at told
      obtain ⟨value, -, own⟩ := Option.bind_eq_some_iff.mp taken
      exact .inr ⟨value, told ▸ own⟩

/-- A function after a reader acts on the answer and leaves faults as they are. -/
theorem get_map (f : α → β) (reader : Reader α) (root : Value) (path : String) (fallback : α) :
    (reader.map f).get root path (f fallback) = (reader.get root path fallback).map f := by
  rw [get_eq, get_eq]
  cases root.valueAt path with
  | error fault => rfl
  | ok walked =>
    simp only [Except.map, map]
    cases walked.toOption with
    | none => rfl
    | some value => rw [Option.bind_some, Option.bind_some, Option.getD_map]

end Reader

end IdentityClaims
