import IdentityClaims.Fault
import IdentityClaims.Record

/-!
# Extraction from a payload

A path leads from a payload down through objects, one member a segment (`lookup`). What stands at
its end is read as a boolean (`get_boolean_field_by_path`) or as a text
(`get_string_field_by_path`); when nothing usable is there, the caller's fallback is the answer and
one record says why.
-/

namespace IdentityClaims

open Json

/-- Why a walk ends before its last segment. -/
inductive Obstacle where
  /-- The segment was to be looked up in a value that is no object. -/
  | notTraversable (segment : String) (found : Kind)
  /-- The object has no member for the segment. -/
  | absent (segment : String)
  deriving DecidableEq, Repr

/-- The record of an obstacle on the way of a path. -/
def Obstacle.record (path : String) : Obstacle → Record
  | .notTraversable segment found => .notTraversable path segment found
  | .absent segment => .segmentAbsent path segment

/-- Follows segments downwards, one member each. -/
def Json.Value.walk (value : Value) : List String → Except Obstacle Value
  | [] => .ok value
  | segment :: rest =>
    match value with
    | .object members =>
      match Table.get? members segment with
      | some next => next.walk rest
      | none => .error (.absent segment)
    | other => .error (.notTraversable segment other.kind)

/-- The value at the end of a path, as `lookup` finds it. Every path can be walked in an object, and
in nothing else even the path's text is examined first. -/
def Json.Value.valueAt (root : Value) (path : String) : Except Fault (Except Obstacle Value) :=
  match Path.parse path with
  | .error fault => .error (.malformed fault)
  | .ok parsed =>
    match root with
    | .object _ => .ok (root.walk parsed.segments)
    | other => .error (.rootNotObject path other.kind)

/-- A way to read the value at the end of a path. -/
structure Reader (α : Type) where
  /-- What a value is read as, if it is usable. -/
  take : Value → Option α
  /-- The record of an unusable value. -/
  refusal : String → Kind → Record

namespace Reader

/-- Only a boolean is read as one. -/
def boolean : Reader Bool where
  take
    | .boolean b => some b
    | _ => none
  refusal := .notBoolean

/-- Null is the empty text, a string is itself and a number its rounded numeral. -/
def text : Reader String where
  take
    | .null => some ""
    | .string s => some s
    | .number n => some n.render
    | _ => none
  refusal := .notScalar

def map {α β : Type} (f : α → β) (reader : Reader α) : Reader β where
  take value := (reader.take value).map f
  refusal := reader.refusal

variable {α : Type}

/-- What is read at a path, or the record that says why nothing is. -/
def outcome (reader : Reader α) (root : Value) (path : String) : Except Fault (Except Record α) :=
  (root.valueAt path).map fun
    | .error obstacle => .error (obstacle.record path)
    | .ok value =>
      match reader.take value with
      | some a => .ok a
      | none => .error (reader.refusal path value.kind)

/-- What is read at a path, or the fallback: `get_boolean_field_by_path` with the reader of
booleans and `get_string_field_by_path` with that of texts. -/
def get (reader : Reader α) (root : Value) (path : String) (fallback : α) : Except Fault α :=
  (reader.outcome root path).map fun
    | .ok a => a
    | .error _ => fallback

/-- The records of a reading: one when the fallback is used, otherwise none. -/
def log (reader : Reader α) (root : Value) (path : String) : List Record :=
  match reader.outcome root path with
  | .ok (.error record) => [record]
  | _ => []

end Reader

end IdentityClaims
