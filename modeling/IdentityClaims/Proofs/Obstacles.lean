import IdentityClaims.Proofs.Reaching

/-!
# What stops a walk

A walk ends early at the first segment that leads nowhere: everything before it is reached, and
what is reached there is no object or has no member for it.
-/

namespace IdentityClaims.Json.Value

/-- Some first segments reach a value that has no member for the next one. -/
inductive Stops (root : Value) (segments : List String) : Obstacle → Prop where
  | notTraversable {earlier later : List String} {segment : String} {value : Value}
      (split : segments = earlier ++ segment :: later) (reached : root.Reaches earlier value)
      (other : value.kind ≠ .object) : Stops root segments (.notTraversable segment value.kind)
  | absent {earlier later : List String} {segment : String} {members : List (String × Value)}
      (split : segments = earlier ++ segment :: later)
      (reached : root.Reaches earlier (.object members))
      (missing : Table.get? members segment = none) : Stops root segments (.absent segment)

/-- A walk goes on from what its first segments reach. -/
theorem Reaches.walk_append {root value : Value} {segments : List String}
    (reached : root.Reaches segments value) (further : List String) :
    root.walk (segments ++ further) = value.walk further := by
  induction reached with
  | here => rfl
  | member found _ ih =>
    rw [List.cons_append, walk, found]
    exact ih

theorem walk_of_not_object {value : Value} (other : value.kind ≠ .object) (segment : String)
    (rest : List String) :
    value.walk (segment :: rest) = .error (.notTraversable segment value.kind) := by
  cases value with
  | object => exact absurd rfl other
  | _ => rfl

/-- What stops a walk below a member stops it from above, too. -/
theorem Stops.below {members : List (String × Value)} {segment : String} {next : Value}
    (found : Table.get? members segment = some next) {rest : List String} {obstacle : Obstacle}
    (stops : next.Stops rest obstacle) : (object members).Stops (segment :: rest) obstacle := by
  cases stops with
  | notTraversable split reached other =>
    exact .notTraversable (congrArg (segment :: ·) split) (.member found reached) other
  | absent split reached missing =>
    exact .absent (congrArg (segment :: ·) split) (.member found reached) missing

/-- A walk ends at exactly what stops it. -/
theorem walk_eq_error_iff (root : Value) (segments : List String) (obstacle : Obstacle) :
    root.walk segments = .error obstacle ↔ root.Stops segments obstacle := by
  constructor
  · intro ended
    induction segments generalizing root with
    | nil => cases ended
    | cons segment rest ih =>
      by_cases object : root.kind = .object
      · cases root with
        | object members =>
          cases found : Table.get? members segment with
          | none =>
            rw [walk, found] at ended
            cases ended
            exact .absent (List.nil_append _).symm (.here _) found
          | some next =>
            rw [walk, found] at ended
            exact (ih next ended).below found
        | _ => cases object
      · rw [walk_of_not_object object] at ended
        cases ended
        exact .notTraversable (List.nil_append _).symm (.here _) object
  · intro stops
    cases stops with
    | notTraversable split reached other =>
      rw [split, reached.walk_append, walk_of_not_object other]
    | absent split reached missing => rw [split, reached.walk_append, walk, missing]

theorem walk_eq_ok_iff (root value : Value) (segments : List String) :
    root.walk segments = .ok value ↔ root.Reaches segments value := by
  rw [← find?_eq_some_iff, find?]
  cases root.walk segments <;> simp [Except.toOption]

end IdentityClaims.Json.Value
