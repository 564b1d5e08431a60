import IdentityClaims.Proofs.ReaderMeaning
import IdentityClaims.Proofs.Writing

/-!
# Looking up after a write

Looking up a path and writing at a path make a lens. A written value is found at its path, and
below its path is found what the value itself holds; above it stands an object, which no reader
takes; everywhere else nothing has changed. Paths are compared by their segments: `a.b` does not
lie above `a.bc`.
-/

namespace IdentityClaims

open Json

namespace Json.Value

/-- What a path leads to in a payload: a value, or nothing. -/
def lookup (root : Value) (path : String) : Except Fault (Option Value) :=
  (root.valueAt path).map Except.toOption

/-- The value with another one written at the segments of a path. -/
def putAt (root : Value) (path : String) (value : Value) : Value :=
  root.put (Path.pieces path) value

variable {root : Value} {path : String}

/-- A path of an object can always be looked up. -/
theorem lookup_of_object (object : root.kind = .object) (proper : ¬ Path.Malformed path) :
    root.lookup path = .ok (root.find? (Path.pieces path)) := by
  unfold lookup
  rw [valueAt_of_object object proper]
  rfl

theorem kind_putAt (root : Value) (path : String) (value : Value) :
    (root.putAt path value).kind = .object :=
  kind_put (Path.pieces_ne_nil path) root value

theorem lookup_putAt_eq (root value : Value) (written : String) (proper : ¬ Path.Malformed path) :
    (root.putAt written value).lookup path =
      .ok ((root.put (Path.pieces written) value).find? (Path.pieces path)) :=
  lookup_of_object (kind_putAt root written value) proper

/-- What is found below the place of a write; below a value without members nothing is. -/
theorem lookup_putAt_continued (root value : Value) {written further : String}
    (proper : ¬ Path.Malformed written) (properFurther : ¬ Path.Malformed further) :
    (root.putAt written value).lookup (written ++ "." ++ further) =
      .ok (value.find? (Path.pieces further)) := by
  rw [lookup_putAt_eq _ _ _ (Path.not_malformed_continued proper properFurther),
    Path.pieces_continued, find?_put_below]

/-- Above the place of a write every reader falls back that takes no object. -/
theorem extract_putAt_above {α : Type} (reader : Reader α)
    (refuses : ∀ members, reader.take (.object members) = none) (root value : Value)
    {written : String} (proper : ¬ Path.Malformed path)
    (above : Path.pieces path <+: Path.pieces written)
    (different : Path.pieces path ≠ Path.pieces written) (fallback : α) :
    reader.extract (root.putAt written value) path fallback = .ok fallback := by
  obtain ⟨further, split⟩ := above
  have nonempty : further ≠ [] := by
    rintro rfl
    rw [List.append_nil] at split
    exact different split
  obtain ⟨members, found⟩ := find?_put_above root value (Path.pieces path) nonempty
  rw [Reader.extract_of_object reader fallback proper (kind_putAt root written value), putAt,
    ← split, found, Option.bind_some, refuses members]
  rfl

/-- The laws of the lens, for every write into an object. -/
theorem lookup_putAt {root : Value} {written : String} (object : root.kind = .object)
    (proper : ¬ Path.Malformed written) (value : Value) :
    (root.putAt written value).lookup written = .ok (some value) ∧
    (∀ further, ¬ Path.Malformed further →
      (value.kind = .object → ∃ reached, value.lookup further = .ok reached ∧
        (root.putAt written value).lookup (written ++ "." ++ further) = .ok reached) ∧
      (value.kind ≠ .object →
        (root.putAt written value).lookup (written ++ "." ++ further) = .ok none)) ∧
    (∀ path, ¬ Path.Malformed path →
      ¬ Path.pieces path <+: Path.pieces written → ¬ Path.pieces written <+: Path.pieces path →
      ∃ reached, root.lookup path = .ok reached ∧
        (root.putAt written value).lookup path = .ok reached) ∧
    (∀ path, ¬ Path.Malformed path →
      Path.pieces path <+: Path.pieces written → Path.pieces path ≠ Path.pieces written →
      (∀ fallback, Reader.boolean.extract (root.putAt written value) path fallback =
        .ok fallback) ∧
      ∀ fallback, Reader.text.extract (root.putAt written value) path fallback =
        .ok fallback) := by
  refine ⟨?own, fun further properFurther => ⟨fun inner => ?below, fun other => ?nothing⟩,
    fun path properPath above below => ?apart, fun path properPath above different => ?above⟩
  case own => rw [lookup_putAt_eq root value written proper, find?_put_self]
  case below =>
    exact ⟨_, lookup_of_object inner properFurther,
      lookup_putAt_continued root value proper properFurther⟩
  case nothing =>
    rw [lookup_putAt_continued root value proper properFurther,
      find?_of_not_object other (Path.pieces_ne_nil further)]
  case apart =>
    refine ⟨_, lookup_of_object object properPath, ?_⟩
    rw [lookup_putAt_eq root value written properPath, find?_put_apart above below]
  case above =>
    exact ⟨extract_putAt_above _ (fun _ => rfl) root value properPath above different,
      extract_putAt_above _ (fun _ => rfl) root value properPath above different⟩

/-- A text in the way of the write, and a member whose name only begins like it. -/
def mailRoot : Value :=
  .object [("user", .string "flat"), ("users", .boolean true)]

/-- Two addresses, one of which is null. -/
def mailValue : Value :=
  .object [("work", .null), ("home", .string "a@b")]

theorem lookup_putAt_mail :
    mailRoot.kind = .object ∧ ¬ Path.Malformed "user.mail" ∧
      (mailRoot.putAt "user.mail" mailValue).lookup "user.mail" = .ok (some mailValue) ∧
      (mailRoot.putAt "user.mail" mailValue).lookup "user.mail.work" = .ok (some .null) ∧
      (mailRoot.putAt "user.mail" .null).lookup "user.mail.work" = .ok none ∧
      (mailRoot.putAt "user.mail" mailValue).lookup "users" = .ok (some (.boolean true)) ∧
      Reader.boolean.extract (mailRoot.putAt "user.mail" mailValue) "user" true = .ok true ∧
      Reader.text.extract (mailRoot.putAt "user.mail" mailValue) "user" "none" = .ok "none" := by
  have proper : ¬ Path.Malformed "user.mail" := by decide
  have object : mailRoot.kind = .object := rfl
  obtain ⟨own, below, apart, above⟩ := lookup_putAt object proper mailValue
  obtain ⟨reached, inner, deep⟩ := (below "work" (by decide)).1 rfl
  cases (inner : Except.ok (some Value.null) = Except.ok reached)
  obtain ⟨kept, before, beside⟩ := apart "users" (by decide) (by decide) (by decide)
  cases (before : Except.ok (some (Value.boolean true)) = Except.ok kept)
  have nothing := (lookup_putAt object proper .null).2.1 "work" (by decide)
  have fallbacks := above "user" (by decide) (by decide) (by decide)
  exact ⟨object, proper, own, deep, nothing.2 (by decide), beside, fallbacks.1 true,
    fallbacks.2 "none"⟩

end Json.Value

end IdentityClaims
