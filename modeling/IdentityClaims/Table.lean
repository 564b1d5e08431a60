/-!
# Association tables

A table lists its entries; the first entry under a key is the one that counts. Tables built by
`put` and `ofPairs` hold every key once.
-/

namespace IdentityClaims

abbrev Table (α : Type) := List (String × α)

namespace Table

variable {α : Type}

def get? : Table α → String → Option α
  | [], _ => none
  | (k, value) :: rest, key => if key = k then some value else get? rest key

/-- Replaces the value under a key where it stands, or appends a new entry. -/
def put (key : String) (value : α) : Table α → Table α
  | [] => [(key, value)]
  | (k, v) :: rest => if k = key then (k, value) :: rest else (k, v) :: put key value rest

def drop (key : String) (table : Table α) : Table α :=
  table.filter fun entry => entry.1 ≠ key

/-- Collects pairs; of two pairs with one key the later wins. -/
def ofPairs (pairs : List (String × α)) : Table α :=
  pairs.foldl (fun table pair => put pair.1 pair.2 table) []

/-- The keys of a table, in the order of its entries. -/
def keys (table : Table α) : List String :=
  table.map Prod.fst

theorem get?_cons (entry : String × α) (table : Table α) (key : String) :
    get? (entry :: table) key = if key = entry.1 then some entry.2 else get? table key := rfl

/-- A write is seen under its own key and under no other. -/
theorem get?_put (table : Table α) (key other : String) (value : α) :
    get? (put key value table) other = if other = key then some value else get? table other := by
  induction table with
  | nil => simp [put, get?_cons]
  | cons entry rest ih =>
    obtain ⟨k, v⟩ := entry
    by_cases same : k = key
    · subst same
      by_cases equal : other = k <;> simp [put, get?_cons, equal]
    · by_cases equal : other = k
      · subst equal; simp [put, get?_cons, same]
      · simp [put, get?_cons, same, equal, ih]

/-- A function of the values may be applied before a write or after it. -/
theorem put_map {β : Type} (f : α → β) (key : String) (value : α) (table : Table α) :
    put key (f value) (table.map fun entry => (entry.1, f entry.2)) =
      (put key value table).map fun entry => (entry.1, f entry.2) := by
  induction table with
  | nil => rfl
  | cons entry rest ih =>
    obtain ⟨k, v⟩ := entry
    by_cases same : k = key
    · simp [put, same]
    · simp [put, same, ih]

theorem put_of_not_mem (key : String) (value : α) {table : Table α} (fresh : key ∉ keys table) :
    put key value table = table ++ [(key, value)] := by
  induction table with
  | nil => rfl
  | cons entry rest ih =>
    obtain ⟨k, v⟩ := entry
    obtain ⟨other, later⟩ := not_or.mp (mt List.mem_cons.mpr fresh)
    rw [put, if_neg (Ne.symm other), ih later, List.cons_append]

theorem get?_append (table others : Table α) (key : String) :
    get? (table ++ others) key = (get? table key).or (get? others key) := by
  induction table with
  | nil => rfl
  | cons entry rest ih =>
    rw [List.cons_append, get?_cons, get?_cons, ih]
    by_cases equal : key = entry.1
    · rw [if_pos equal, if_pos equal, Option.some_or]
    · rw [if_neg equal, if_neg equal]

/-- Collected pairs hold the last value of every key. -/
theorem get?_ofPairs (pairs : List (String × α)) (key : String) :
    get? (ofPairs pairs) key = get? pairs.reverse key := by
  have from_any : ∀ table : Table α,
      get? (pairs.foldl (fun t pair => put pair.1 pair.2 t) table) key =
        (get? pairs.reverse key).or (get? table key) := by
    induction pairs with
    | nil => exact fun _ => rfl
    | cons pair rest ih =>
      intro table
      rw [List.foldl_cons, ih, get?_put, List.reverse_cons, get?_append, get?_cons]
      by_cases equal : key = pair.1 <;> cases get? rest.reverse key <;> simp [equal, get?]
  rw [ofPairs, from_any, get?, Option.or_none]

theorem get?_eq_none_iff (table : Table α) (key : String) :
    get? table key = none ↔ key ∉ keys table := by
  induction table with
  | nil => simp [get?, keys]
  | cons entry rest ih =>
    rw [get?_cons]
    by_cases equal : key = entry.1
    · simp [equal, keys]
    · rw [if_neg equal, ih]
      simp [equal, keys]

/-- Where no key repeats, every entry counts. -/
theorem get?_eq_some_iff {table : Table α} (distinct : (keys table).Nodup) {key : String}
    {value : α} : get? table key = some value ↔ (key, value) ∈ table := by
  induction table with
  | nil => simp [get?]
  | cons entry rest ih =>
    obtain ⟨fresh, apart⟩ := List.nodup_cons.mp distinct
    rw [get?_cons, List.mem_cons]
    by_cases own : key = entry.1
    · have elsewhere : (key, value) ∉ rest :=
        fun member => fresh (own ▸ List.mem_map.mpr ⟨_, member, rfl⟩)
      rw [if_pos own, Option.some.injEq, or_iff_left elsewhere, Prod.ext_iff]
      exact ⟨fun same => ⟨own, same.symm⟩, fun same => same.2.symm⟩
    · rw [if_neg own, ih apart, or_iff_right fun same => own (Prod.ext_iff.mp same).1]

/-- Where no key repeats, the order of the entries does not count. -/
theorem get?_perm {table others : Table α} (distinct : (keys table).Nodup)
    (reordered : table.Perm others) (key : String) : get? table key = get? others key := by
  have apart : (keys others).Nodup := (reordered.map Prod.fst).nodup_iff.mp distinct
  apply Option.ext
  intro value
  rw [get?_eq_some_iff distinct, get?_eq_some_iff apart, reordered.mem_iff]

theorem get?_drop (table : Table α) (key other : String) :
    get? (drop key table) other = if other = key then none else get? table other := by
  induction table with
  | nil => simp [drop, get?]
  | cons entry rest ih =>
    obtain ⟨k, v⟩ := entry
    by_cases same : k = key
    · subst same
      rw [show drop k ((k, v) :: rest) = drop k rest by simp [drop], ih, get?_cons]
      by_cases equal : other = k <;> simp [equal]
    · rw [show drop key ((k, v) :: rest) = (k, v) :: drop key rest by simp [drop, same],
        get?_cons, get?_cons, ih]
      by_cases equal : other = k
      · subst equal; simp [same]
      · simp [equal]

theorem mem_keys_put (table : Table α) (key other : String) (value : α) :
    other ∈ keys (put key value table) ↔ other = key ∨ other ∈ keys table := by
  induction table with
  | nil => simp [put, keys]
  | cons entry rest ih =>
    obtain ⟨k, v⟩ := entry
    by_cases same : k = key
    · subst same; simp [put, keys]
    · simp only [keys, put, same, if_false, List.map_cons, List.mem_cons] at ih ⊢
      rw [ih]; grind

theorem nodup_keys_put (table : Table α) (key : String) (value : α)
    (distinct : (keys table).Nodup) : (keys (put key value table)).Nodup := by
  induction table with
  | nil => simp [put, keys]
  | cons entry rest ih =>
    obtain ⟨k, v⟩ := entry
    have split := List.nodup_cons.mp distinct
    by_cases same : k = key
    · simpa [put, same, keys] using distinct
    · have fresh : k ∉ keys (put key value rest) := by
        rw [mem_keys_put]
        exact fun h => h.elim same split.1
      have spread : keys (put key value ((k, v) :: rest)) = k :: keys (put key value rest) := by
        simp [put, same, keys]
      rw [spread]
      exact List.nodup_cons.mpr ⟨fresh, ih split.2⟩

theorem nodup_keys_drop (table : Table α) (key : String) (distinct : (keys table).Nodup) :
    (keys (drop key table)).Nodup :=
  distinct.sublist (List.Sublist.map _ List.filter_sublist)

theorem nodup_keys_ofPairs (pairs : List (String × α)) : (keys (ofPairs pairs)).Nodup := by
  have from_any : ∀ table : Table α, (keys table).Nodup →
      (keys (pairs.foldl (fun t pair => put pair.1 pair.2 t) table)).Nodup := by
    induction pairs with
    | nil => exact fun _ distinct => distinct
    | cons pair rest ih => exact fun table distinct => ih _ (nodup_keys_put table _ _ distinct)
  exact from_any [] List.nodup_nil

/-- Pairs with distinct keys are collected as they stand. -/
theorem ofPairs_of_nodup {pairs : Table α} (distinct : (keys pairs).Nodup) :
    ofPairs pairs = pairs := by
  have onto : ∀ table : Table α, (keys (table ++ pairs)).Nodup →
      pairs.foldl (fun t pair => put pair.1 pair.2 t) table = table ++ pairs := by
    induction pairs with
    | nil => simp
    | cons pair rest ih =>
      intro table apart
      have fresh : pair.1 ∉ keys table := by
        simp only [keys, List.map_append, List.map_cons, List.nodup_append] at apart
        exact fun member => apart.2.2 _ member _ List.mem_cons_self rfl
      have moved : table ++ pair :: rest = (table ++ [pair]) ++ rest := by simp
      rw [List.foldl_cons, put_of_not_mem _ _ fresh, moved]
      exact ih (List.nodup_cons.mp distinct).2 _ (moved ▸ apart)
  exact onto [] distinct

end Table

end IdentityClaims
