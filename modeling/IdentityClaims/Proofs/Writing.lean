import IdentityClaims.Proofs.Reaching

/-!
# Writing a value at segments

The reference write: it makes the objects it needs on its way and leaves every value that does not
lie on the way, or below its end, where it was.
-/

namespace IdentityClaims.Json.Value

/-- The value with another one written at the end of segments. What stands on the way and is no
object gives way to a new one. -/
def put : Value → List String → Value → Value
  | _, [], value => value
  | root, segment :: rest, value =>
    -- A missing member is as good as null: both have no members to keep.
    let next := (Table.get? root.members segment).getD .null
    .object (Table.put segment (next.put rest value) root.members)

theorem members_put_cons (root : Value) (segment : String) (rest : List String) (value : Value) :
    (root.put (segment :: rest) value).members =
      Table.put segment (((Table.get? root.members segment).getD .null).put rest value)
        root.members := rfl

theorem kind_put {segments : List String} (nonempty : segments ≠ []) (root value : Value) :
    (root.put segments value).kind = .object := by
  cases segments with
  | nil => exact absurd rfl nonempty
  | cons => rfl

/-- A value is found where it was written. -/
theorem find?_put_self (root value : Value) (segments : List String) :
    (root.put segments value).find? segments = some value := by
  induction segments generalizing root with
  | nil => rfl
  | cons segment rest ih =>
    rw [find?_cons, members_put_cons, Table.get?_put, if_pos rfl, Option.bind_some, ih]

/-- Below the place of a write stands what stands in the value that was written. -/
theorem find?_put_below (root value : Value) (written further : List String) :
    (root.put written value).find? (written ++ further) = value.find? further := by
  rw [find?_append, find?_put_self, Option.bind_some]

/-- Above the place of a write stands an object. -/
theorem find?_put_above (root value : Value) (segments : List String) {further : List String}
    (nonempty : further ≠ []) :
    ∃ members, (root.put (segments ++ further) value).find? segments = some (.object members) := by
  induction segments generalizing root with
  | nil =>
    cases further with
    | nil => exact absurd rfl nonempty
    | cons => exact ⟨_, rfl⟩
  | cons segment rest ih =>
    rw [List.cons_append, find?_cons, members_put_cons, Table.get?_put, if_pos rfl,
      Option.bind_some]
    exact ih _

/-- A write leaves what is found elsewhere, that is at segments of which neither list continues
the other. -/
theorem find?_put_apart {written segments : List String} (above : ¬ segments <+: written)
    (below : ¬ written <+: segments) (root value : Value) :
    (root.put written value).find? segments = root.find? segments := by
  induction written generalizing root segments with
  | nil => exact absurd List.nil_prefix below
  | cons segment rest ih =>
    cases segments with
    | nil => exact absurd List.nil_prefix above
    | cons first later =>
      rw [find?_cons, find?_cons, members_put_cons, Table.get?_put]
      by_cases same : first = segment
      · subst same
        rw [if_pos rfl, Option.bind_some]
        rw [List.cons_prefix_cons, not_and] at above below
        rw [ih (above rfl) (below rfl)]
        cases found : Table.get? root.members first with
        | none =>
          -- The write starts an object here; nothing is found in it or in its absence.
          have deeper : later ≠ [] := by
            rintro rfl
            exact above rfl List.nil_prefix
          exact find?_of_not_object (by decide) deeper
        | some next => rfl
      · rw [if_neg same]

end IdentityClaims.Json.Value
