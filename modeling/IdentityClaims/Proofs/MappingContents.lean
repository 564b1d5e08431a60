import IdentityClaims.Mapping
import Mathlib.Data.Finset.Card

/-!
# What a mapping holds

A mapping is known from its look-ups: they decide whether two mappings are the same, however their
entries are ordered, and the entries are as many as the keys that are found.
-/

namespace IdentityClaims.Mapping

variable {a b mapping : Mapping}

theorem get?_insert (mapping : Mapping) (name path key : String) :
    (mapping.insert name path).get? key = if key = name then some path else mapping.get? key :=
  Table.get?_put mapping.entries name key path

theorem get?_erase (mapping : Mapping) (name key : String) :
    (mapping.erase name).get? key = if key = name then none else mapping.get? key :=
  Table.get?_drop mapping.entries name key

theorem get?_ofPairs (pairs : List (String × String)) (key : String) :
    (ofPairs pairs).get? key = Table.get? pairs.reverse key :=
  Table.get?_ofPairs pairs key

theorem eq_of_entries (same : a.entries = b.entries) : a = b := by
  cases a
  cases b
  cases same
  rfl

/-- To collect pairs is to insert them one by one. -/
theorem foldl_insert_empty (pairs : List (String × String)) :
    pairs.foldl (fun mapping pair => mapping.insert pair.1 pair.2) empty = ofPairs pairs := by
  have entries : ∀ mapping : Mapping,
      (pairs.foldl (fun mapping pair => mapping.insert pair.1 pair.2) mapping).entries =
        pairs.foldl (fun table pair => Table.put pair.1 pair.2 table) mapping.entries := by
    induction pairs with
    | nil => exact fun _ => rfl
    | cons pair rest ih => exact fun mapping => ih (mapping.insert pair.1 pair.2)
  exact eq_of_entries (entries empty)

/-! ## Keys -/

/-- The keys with entries. -/
def keys (mapping : Mapping) : Finset String :=
  (Table.keys mapping.entries).toFinset

theorem mem_keys_iff (mapping : Mapping) (key : String) :
    key ∈ mapping.keys ↔ mapping.get? key ≠ none := by
  rw [keys, List.mem_toFinset, get?, ne_eq, Table.get?_eq_none_iff, not_not]

theorem card_keys (mapping : Mapping) : mapping.keys.card = mapping.size := by
  rw [keys, List.toFinset_card_of_nodup mapping.distinct, Table.keys, List.length_map, size]

theorem get?_eq_some_iff (mapping : Mapping) (key path : String) :
    mapping.get? key = some path ↔ (key, path) ∈ mapping.entries :=
  Table.get?_eq_some_iff mapping.distinct

/-- Mappings are the same exactly when they have the same look-ups. -/
theorem same_iff : a.same b ↔ ∀ key, a.get? key = b.get? key := by
  rw [same, Bool.and_eq_true, beq_iff_eq, List.all_eq_true, ← card_keys, ← card_keys]
  constructor
  · rintro ⟨sizes, found⟩ key
    have within : ∀ key path, a.get? key = some path → b.get? key = some path :=
      fun key path held => beq_iff_eq.mp (found _ ((a.get?_eq_some_iff key path).mp held))
    have subset : a.keys ⊆ b.keys := by
      intro key member
      obtain ⟨path, held⟩ := Option.ne_none_iff_exists'.mp ((a.mem_keys_iff key).mp member)
      rw [mem_keys_iff, within key path held]
      exact Option.some_ne_none path
    -- With as many keys, the second mapping has no others.
    have equal : a.keys = b.keys := Finset.eq_of_subset_of_card_le subset sizes.ge
    cases held : a.get? key with
    | some path => exact (within key path held).symm
    | none =>
      have absent : key ∉ b.keys := by
        rw [← equal, mem_keys_iff, held]
        exact not_not.mpr rfl
      rw [mem_keys_iff, not_not] at absent
      exact absent.symm
  · intro agree
    constructor
    · congr 1
      ext key
      rw [mem_keys_iff, mem_keys_iff, agree]
    · intro entry member
      rw [beq_iff_eq, ← agree]
      exact (a.get?_eq_some_iff entry.1 entry.2).mpr member

end IdentityClaims.Mapping
