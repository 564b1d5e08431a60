import IdentityClaims.Proofs.LoneCapitals
import IdentityClaims.Proofs.MappingEntries
import IdentityClaims.Proofs.ReaderMeaning

/-!
# The shape of default paths

Snake case writes something without a dot for every character but a dot, which it keeps. So a name
and its default path have empty pieces at the same places, and whether a default path is malformed
is seen from the name alone. The names of claims have no dots; what makes a resolution of an
object fail has therefore been configured.
-/

namespace IdentityClaims.Text

/-! ## Where a text has empty pieces -/

/-- For each piece of a text whether it is empty. -/
def gaps (separator : Char) (cs : List Char) : List Bool :=
  (splitChars separator cs).1.isEmpty :: (splitChars separator cs).2.map List.isEmpty

theorem gaps_cons_self (separator : Char) (rest : List Char) :
    gaps separator (separator :: rest) = true :: gaps separator rest := by
  simp [gaps, splitChars]

theorem gaps_cons_of_ne {separator c : Char} (other : c ≠ separator) (rest : List Char) :
    gaps separator (c :: rest) = false :: (gaps separator rest).tail := by
  simp [gaps, splitChars, other]

/-- A word without separators lengthens the first piece of what follows it. -/
theorem gaps_append_of_not_mem {separator : Char} {word : List Char} (nonempty : word ≠ [])
    (free : separator ∉ word) (rest : List Char) :
    gaps separator (word ++ rest) = false :: (gaps separator rest).tail := by
  induction word with
  | nil => exact absurd rfl nonempty
  | cons c later ih =>
    obtain ⟨other, freeLater⟩ := not_or.mp (mt List.mem_cons.mpr free)
    rw [List.cons_append, gaps_cons_of_ne (Ne.symm other)]
    cases later with
    | nil => rfl
    | cons next others => rw [ih (List.cons_ne_nil _ _) freeLater, List.tail_cons]

/-- Writing a word without separators for each character but a separator makes and fills no gap. -/
theorem gaps_flatMap {separator : Char} {write : Char → List Char}
    (kept : write separator = [separator])
    (words : ∀ c, c ≠ separator → write c ≠ [] ∧ separator ∉ write c) (cs : List Char) :
    gaps separator (cs.flatMap write) = gaps separator cs := by
  induction cs with
  | nil => rfl
  | cons c rest ih =>
    rw [List.flatMap_cons]
    by_cases cut : c = separator
    · rw [cut, kept, List.singleton_append, gaps_cons_self, gaps_cons_self, ih]
    · obtain ⟨nonempty, free⟩ := words c cut
      rw [gaps_append_of_not_mem nonempty free, gaps_cons_of_ne cut, ih]

/-! ## Dots in snake case -/

theorem dot_not_mem_lowercase {c : Char} (other : c ≠ '.') : '.' ∉ lowercase c :=
  mark_not_mem_lowercase (by decide) other

theorem lowercase_dot : lowercase '.' = ['.'] :=
  lowercase_of_ascii (by decide)

/-- A character after the first one is written without a dot, unless it is one. -/
theorem snakeInner_word (c : Char) (other : c ≠ '.') :
    snakeInner c ≠ [] ∧ '.' ∉ snakeInner c := by
  have free := dot_not_mem_lowercase other
  unfold snakeInner
  split
  · exact ⟨List.cons_ne_nil _ _, by simpa using free⟩
  · exact ⟨List.cons_ne_nil _ _, mt List.mem_singleton.mp (Ne.symm other)⟩

theorem gaps_snakeChars (cs : List Char) : gaps '.' (snakeChars cs) = gaps '.' cs := by
  have dot : snakeInner '.' = ['.'] :=
    snakeInner_of_not_uppercase (isUppercase_of_ascii (by decide))
  have later := gaps_flatMap dot snakeInner_word
  cases cs with
  | nil => rfl
  | cons c rest =>
    rw [snakeChars]
    by_cases cut : c = '.'
    · rw [cut, lowercase_dot, List.singleton_append, gaps_cons_self, gaps_cons_self, later]
    · rw [gaps_append_of_not_mem (lowercase_ne_nil c) (dot_not_mem_lowercase cut),
        gaps_cons_of_ne cut, later]

end IdentityClaims.Text

namespace IdentityClaims.Path

open Text

/-- The empty pieces of a text are its gaps. -/
theorem map_pieces (text : String) :
    (pieces text).map (fun piece => decide (piece = "")) = gaps '.' text.toList := by
  have empty : ∀ cs : List Char, decide (String.ofList cs = "") = cs.isEmpty := by
    intro cs
    rw [Bool.eq_iff_iff, decide_eq_true_iff, String.ofList_eq_empty_iff, List.isEmpty_iff]
  rw [pieces, Text.pieces, List.map_cons, List.map_map, gaps, empty]
  exact congrArg _ (List.map_congr_left fun cs _ => empty cs)

/-- A name and its snake case have empty pieces at the same places. -/
theorem map_pieces_snakeCase (name : String) :
    (pieces (snakeCase name)).map (fun piece => decide (piece = "")) =
      (pieces name).map fun piece => decide (piece = "") := by
  rw [map_pieces, map_pieces, snakeCase, String.toList_ofList, gaps_snakeChars]

theorem length_pieces_snakeCase (name : String) :
    (pieces (snakeCase name)).length = (pieces name).length := by
  simpa using congrArg List.length (map_pieces_snakeCase name)

theorem getElem?_pieces_snakeCase (name : String) (i : Nat) :
    (pieces (snakeCase name))[i]? = some "" ↔ (pieces name)[i]? = some "" := by
  have seen : ∀ text : String, (pieces text)[i]? = some "" ↔
      ((pieces text).map fun piece => decide (piece = ""))[i]? = some true := by
    intro text
    simp [List.getElem?_map]
  rw [seen, map_pieces_snakeCase, ← seen]

/-- A text is malformed as soon as one of its pieces is empty; that of the empty text is. -/
theorem malformed_iff_empty_mem (text : String) : Malformed text ↔ "" ∈ pieces text := by
  refine ⟨fun malformed => malformed.elim ?_ id, .inr⟩
  rintro rfl
  decide

theorem malformed_snakeCase_iff (name : String) : Malformed (snakeCase name) ↔ Malformed name := by
  rw [malformed_iff_empty_mem, malformed_iff_empty_mem, List.mem_iff_getElem?,
    List.mem_iff_getElem?]
  exact exists_congr (getElem?_pieces_snakeCase name)

end IdentityClaims.Path

namespace IdentityClaims

open Json

/-- In an object nothing fails but a malformed path. -/
theorem Reader.extract_eq_error_iff {α : Type} {root : Value} (object : root.kind = .object)
    (reader : Reader α) (path : String) (fallback : α) :
    (∃ error, reader.extract root path fallback = .error error) ↔ Path.Malformed path := by
  constructor
  · rintro ⟨error, failed⟩
    refine Decidable.byContradiction fun proper => ?_
    rw [extract_of_object reader fallback proper object] at failed
    cases failed
  · intro malformed
    obtain ⟨fault, failed⟩ := Path.parse_of_malformed malformed
    exact ⟨_, extract_of_fault reader fallback (Value.valueAt_of_parse root failed)⟩

/-- A malformed path of a claim is an entry of the mapping: without one it is the claim's field. -/
theorem Mapping.exists_entry_of_malformed {mapping : Mapping} {claim : Claim}
    (malformed : Path.Malformed (mapping.pathOf claim)) :
    ∃ path, mapping.get? claim.logicalName = some path ∧ path ≠ "" ∧ Path.Malformed path := by
  unfold pathOf at malformed
  cases entry : (mapping.get? claim.logicalName).filter (· ≠ "") with
  | none =>
    rw [entry, Option.getD_none, claim.snakeCase_logicalName] at malformed
    exact absurd malformed (Path.not_malformed_of_isSegment claim.isSegment_field)
  | some path =>
    rw [entry, Option.getD_some] at malformed
    obtain ⟨own, nonempty⟩ := Option.filter_eq_some_iff.mp entry
    exact ⟨path, own, of_decide_eq_true nonempty, malformed⟩

/-- A resolution of an object that fails has come to a claim with a malformed entry. -/
theorem Resolver.exists_entry_of_failed {mapping : Mapping} {payload : Value}
    {error : IdentityError} (object : payload.kind = .object)
    (failed : resolve ⟨mapping⟩ payload = .error error) :
    ∃ (claim : Claim) (path : String), mapping.get? claim.logicalName = some path ∧ path ≠ "" ∧
      Path.Malformed path ∧ error.kind = .malformedPath ∧
      error.context = some ("resolving " ++ claim.logicalName) := by
  by_cases proper : ∀ claim, ¬ Path.Malformed (mapping.pathOf claim)
  · obtain ⟨claims, resolved, -⟩ := @resolve_of_proper ⟨mapping⟩ payload object proper
    rw [resolved] at failed
    cases failed
  · obtain ⟨claim, first⟩ := Mapping.exists_firstMalformed (Classical.not_forall_not.mp proper)
    obtain ⟨_, -, -, own⟩ := @failsFor_of_firstMalformed ⟨mapping⟩ payload claim object first
    obtain ⟨_, _, -, -, malformed⟩ := first
    obtain ⟨path, entry, nonempty, stray⟩ := Mapping.exists_entry_of_malformed malformed
    rw [own] at failed
    cases failed
    exact ⟨claim, path, entry, nonempty, stray, rfl, rfl⟩

/-- Snake case keeps the shape of a path. A default path has as many pieces as the name, empty ones
at the same places; so it fails in an object exactly when the name itself is malformed, and a
resolution of an object fails only at a claim with an entry of its own. -/
theorem Mapping.default_shape_kept :
    (∀ name : String,
      (Path.pieces (Text.snakeCase name)).length = (Path.pieces name).length ∧
      ∀ i : Nat, (Path.pieces (Text.snakeCase name))[i]? = some "" ↔
        (Path.pieces name)[i]? = some "") ∧
    (∀ (mapping : Mapping) (name : String), (∀ path, mapping.get? name = some path → path = "") →
      ∀ root : Value, root.kind = .object → ∀ {α : Type} (reader : Reader α) (fallback : α),
        ((∃ error, reader.extract root (mapping.choose name).path fallback = .error error) ↔
          name = "" ∨ "" ∈ Path.pieces name) ∧
        (name ≠ "" → '.' ∉ name.toList →
          ∃ answer, reader.extract root (mapping.choose name).path fallback = .ok answer)) ∧
    (∀ (mapping : Mapping) (payload : Value) (error : IdentityError), payload.kind = .object →
      Resolver.resolve ⟨mapping⟩ payload = .error error →
        ∃ (claim : Claim) (path : String), mapping.get? claim.logicalName = some path ∧
          path ≠ "" ∧ Path.Malformed path ∧ error.kind = .malformedPath ∧
          error.context = some ("resolving " ++ claim.logicalName)) := by
  refine ⟨fun name => ⟨Path.length_pieces_snakeCase name, Path.getElem?_pieces_snakeCase name⟩,
    fun mapping name bare root object α reader fallback => ?_,
    fun mapping payload error object failed => Resolver.exists_entry_of_failed object failed⟩
  rw [choose_of_unconfigured bare, Reader.extract_eq_error_iff object,
    Path.malformed_snakeCase_iff]
  refine ⟨Iff.rfl, fun nonempty dotless => ?_⟩
  have proper : ¬ Path.Malformed (Text.snakeCase name) := by
    rw [Path.malformed_snakeCase_iff]
    exact Path.not_malformed_of_isSegment ⟨nonempty, dotless⟩
  exact ⟨_, Reader.extract_of_object reader fallback proper object⟩

/-! The statement at names with letters that are lowered to several or to themselves, and at a
mapping with a malformed entry. -/

/-- A mapping with an empty entry and a malformed one. -/
def strayMapping : Mapping :=
  .ofPairs [("İd..𝐀", ""), ("Email", "user..email")]

theorem Mapping.default_shape_kept_stray :
    (∀ path, strayMapping.get? "İd..𝐀" = some path → path = "") ∧
      (∃ error, Reader.text.extract (.object []) (strayMapping.choose "İd..𝐀").path "n/a" =
        .error error) ∧
      (∀ path, strayMapping.get? "𝐀İ" = some path → path = "") ∧
      (∃ answer, Reader.boolean.extract (.object []) (strayMapping.choose "𝐀İ").path true =
        .ok answer) ∧
      ∃ error, Resolver.resolve ⟨strayMapping⟩ (.object []) = .error error ∧
        ∃ (claim : Claim) (path : String), strayMapping.get? claim.logicalName = some path ∧
          path ≠ "" ∧ Path.Malformed path ∧ error.kind = .malformedPath ∧
          error.context = some ("resolving " ++ claim.logicalName) := by
  obtain ⟨-, shape, resolution⟩ := default_shape_kept
  have bareStray : ∀ path, strayMapping.get? "İd..𝐀" = some path → path = "" := by
    rintro path ⟨⟩
    rfl
  have bareWord : ∀ path, strayMapping.get? "𝐀İ" = some path → path = "" := by
    rintro path ⟨⟩
  have email : Path.Malformed (strayMapping.pathOf .email) := by decide +kernel
  obtain ⟨claim, first⟩ := exists_firstMalformed ⟨.email, email⟩
  obtain ⟨_, -, -, failed⟩ :=
    @Resolver.failsFor_of_firstMalformed ⟨strayMapping⟩ (.object []) claim rfl first
  exact ⟨bareStray, (shape _ _ bareStray _ rfl Reader.text "n/a").1.mpr (.inr (by decide)),
    bareWord, (shape _ _ bareWord _ rfl Reader.boolean true).2 (by decide) (by decide), _, failed,
    resolution _ _ _ rfl failed⟩

end IdentityClaims
