import IdentityClaims.Proofs.Reaching

/-!
# What the readers answer

What `get_boolean_field_by_path` and `get_string_field_by_path` answer: the text of the path is
judged first, then the root; a path of an object is always answered. The answer is the value that
the segments of the path reach, as far as the reader takes it, and the fallback in every other
case.
-/

namespace IdentityClaims.Reader

open Json

variable {α : Type} {root : Value} {path : String}

theorem extract_of_fault {fault : Fault} (reader : Reader α) (fallback : α)
    (failed : root.valueAt path = .error fault) :
    reader.extract root path fallback = .error fault.error := by
  unfold extract
  rw [get_of_fault reader fallback failed]
  rfl

theorem extract_empty (reader : Reader α) (root : Value) (fallback : α) :
    reader.extract root "" fallback = .error ⟨.malformedPath, "empty path", none⟩ :=
  extract_of_fault reader fallback (Value.valueAt_of_parse root Path.parse_empty)

theorem extract_of_strayDot (reader : Reader α) (root : Value) (fallback : α)
    (nonempty : path ≠ "") (stray : Path.StrayDot path) :
    reader.extract root path fallback =
      .error ⟨.malformedPath, "empty segment in '" ++ path ++ "'", none⟩ :=
  extract_of_fault reader fallback
    (Value.valueAt_of_parse root (Path.parse_of_strayDot nonempty stray))

theorem extract_of_not_object (reader : Reader α) (fallback : α)
    (proper : ¬ Path.Malformed path) (other : root.kind ≠ .object) :
    reader.extract root path fallback =
      .error ⟨.invalidRoot, "expected an object, found " ++ root.kind.name, some path⟩ :=
  extract_of_fault reader fallback (Value.valueAt_of_not_object other proper)

theorem extract_of_object (reader : Reader α) (fallback : α) (proper : ¬ Path.Malformed path)
    (object : root.kind = .object) :
    reader.extract root path fallback =
      .ok (((root.find? (Path.pieces path)).bind reader.take).getD fallback) := by
  unfold extract
  rw [get_of_object reader fallback object proper]
  rfl

/-- What a path reaches decides the answer; only an object has something to reach. -/
theorem extract_of_reaches {value : Value} (reader : Reader α) (fallback : α)
    (proper : ¬ Path.Malformed path) (reached : root.Reaches (Path.pieces path) value) :
    reader.extract root path fallback = .ok ((reader.take value).getD fallback) := by
  rw [extract_of_object reader fallback proper (reached.kind_of_ne_nil (Path.pieces_ne_nil path)),
    (Value.find?_eq_some_iff root value _).mpr reached, Option.bind_some]

/-- The two reports of a malformed path are never the same. -/
theorem emptySegment_ne_emptyPath (path : String) :
    "empty segment in '" ++ path ++ "'" ≠ "empty path" := by
  intro same
  have chars := congrArg String.toList same
  simp at chars

/-- The exact meaning of the readers. A fault is reported for an empty path, then for a stray
dot, both whatever the root is, then for a root that is no object, and for nothing else. Where
there is no fault, the path spells one list of segments, these reach one value or none, and that
value alone decides the answers. -/
theorem extract_exact (root : Value) (path : String) :
    (∀ {α : Type} (reader : Reader α) (fallback : α),
      (reader.extract root path fallback = .error ⟨.malformedPath, "empty path", none⟩ ↔
        path = "") ∧
      (reader.extract root path fallback =
          .error ⟨.malformedPath, "empty segment in '" ++ path ++ "'", none⟩ ↔
        path ≠ "" ∧ Path.StrayDot path) ∧
      (reader.extract root path fallback =
          .error ⟨.invalidRoot, "expected an object, found " ++ root.kind.name, some path⟩ ↔
        path ≠ "" ∧ ¬ Path.StrayDot path ∧ root.kind ≠ .object)) ∧
    (path ≠ "" → ¬ Path.StrayDot path → root.kind = .object →
      ∃ (segments : List String) (reached : Option Value),
        (∀ others, Path.Spells others path ↔ others = segments) ∧
        (∀ value, root.Reaches segments value ↔ reached = some value) ∧
        (∀ fallback, Reader.boolean.extract root path fallback =
          .ok (match reached with
            | some (.boolean b) => b
            | _ => fallback)) ∧
        (∀ fallback, Reader.text.extract root path fallback =
          .ok (match reached with
            | some .null => ""
            | some (.string s) => s
            | some (.number n) => n.render
            | _ => fallback))) := by
  by_cases empty : path = ""
  · subst empty
    refine ⟨fun reader fallback => ?_, fun nonempty => absurd rfl nonempty⟩
    rw [extract_empty]
    have distinct := emptySegment_ne_emptyPath ""
    grind
  by_cases stray : Path.StrayDot path
  · refine ⟨fun reader fallback => ?_, fun _ proper => absurd stray proper⟩
    rw [extract_of_strayDot reader root fallback empty stray]
    have distinct := emptySegment_ne_emptyPath path
    grind
  have proper : ¬ Path.Malformed path := by
    rw [Path.malformed_iff]
    exact fun malformed => malformed.elim empty stray
  by_cases object : root.kind = .object
  · refine ⟨fun reader fallback => ?_, fun _ _ _ => ?_⟩
    · rw [extract_of_object reader fallback proper object]
      grind
    · refine ⟨Path.pieces path, root.find? (Path.pieces path), Path.spells_iff proper,
        fun value => (Value.find?_eq_some_iff root value _).symm, fun fallback => ?_,
        fun fallback => ?_⟩
      · rw [extract_of_object _ fallback proper object]
        rcases root.find? (Path.pieces path) with _ | (_ | _ | _ | _ | _ | _) <;> rfl
      · rw [extract_of_object _ fallback proper object]
        rcases root.find? (Path.pieces path) with _ | (_ | _ | _ | _ | _ | _) <;> rfl
  · refine ⟨fun reader fallback => ?_, fun _ _ is => absurd is object⟩
    rw [extract_of_not_object reader fallback proper object]
    grind

end IdentityClaims.Reader
