import IdentityClaims.Proofs.DefaultDecoding
import Mathlib.Data.List.Perm.Basic

/-!
# Fields of written records

A record is read from the members under the keys it knows. Which members those are is settled by
the documents under each key: at most one for every known key, and any number for the others.
-/

namespace IdentityClaims

open Json

/-- The documents under a key, in the order of the members. -/
def occurrences (members : List (RawText × Document)) (key : String) : List Document :=
  members.filterMap fun member => if member.1 = some key then some member.2 else none

/-- Members that are named by keys. -/
def namedMembers (fields : Table Document) : List (RawText × Document) :=
  fields.map fun field => (some field.1, field.2)

/-- Whether a member has one of the known keys. -/
def isKnown (known : List String) (member : RawText × Document) : Bool :=
  member.1.any fun key => key ∈ known

/-! ## Occurrences -/

theorem occurrences_cons (raw : RawText) (item : Document) (rest : List (RawText × Document))
    (key : String) :
    occurrences ((raw, item) :: rest) key =
      if raw = some key then item :: occurrences rest key else occurrences rest key := by
  unfold occurrences
  rw [List.filterMap_cons]
  by_cases own : raw = some key
  · simp [own]
  · simp [own]

theorem occurrences_perm {members others : List (RawText × Document)}
    (reordered : members.Perm others) (key : String) :
    (occurrences members key).Perm (occurrences others key) :=
  reordered.filterMap _

/-- Members with unknown keys do not count. -/
theorem occurrences_filter {known : List String} {key : String} (member : key ∈ known)
    (members : List (RawText × Document)) :
    occurrences (members.filter (isKnown known)) key = occurrences members key := by
  induction members with
  | nil => rfl
  | cons first rest ih =>
    obtain ⟨raw, item⟩ := first
    rw [occurrences_cons, List.filter_cons]
    by_cases own : raw = some key
    · have counted : isKnown known (raw, item) = true := by simp [isKnown, own, member]
      rw [if_pos own, if_pos counted, occurrences_cons, if_pos own, ih]
    · rw [if_neg own]
      by_cases counted : isKnown known (raw, item) = true
      · rw [if_pos counted, occurrences_cons, if_neg own, ih]
      · rw [if_neg counted, ih]

theorem mem_occurrences {members : List (RawText × Document)} {key : String} {item : Document} :
    item ∈ occurrences members key ↔ (some key, item) ∈ members := by
  induction members with
  | nil => simp [occurrences]
  | cons first rest ih =>
    obtain ⟨raw, other⟩ := first
    rw [occurrences_cons, List.mem_cons]
    by_cases own : raw = some key
    · rw [if_pos own, List.mem_cons, ih, own, Prod.mk.injEq]
      simp
    · rw [if_neg own, ih, Prod.mk.injEq]
      simp [Ne.symm own]

/-- A key that names one field at most occurs as often. -/
theorem occurrences_namedMembers {fields : Table Document} (distinct : (Table.keys fields).Nodup)
    (key : String) : occurrences (namedMembers fields) key = (Table.get? fields key).toList := by
  induction fields with
  | nil => rfl
  | cons field rest ih =>
    obtain ⟨fresh, apart⟩ := List.nodup_cons.mp distinct
    rw [namedMembers] at ih
    rw [namedMembers, List.map_cons, occurrences_cons, ih apart, Table.get?_cons]
    by_cases own : key = field.1
    · rw [if_pos (congrArg some own.symm), if_pos own, own,
        (Table.get?_eq_none_iff rest field.1).mpr fresh]
      rfl
    · rw [if_neg fun same => own (Option.some.inj same).symm, if_neg own]

/-! ## Known members -/

section

variable {known : List String} {members : List (RawText × Document)} {occurring : Table Document}

/-- What is taken are the members with a known key, as they stand. -/
theorem filter_of_knownMembers? (taken : knownMembers? known members = some occurring) :
    members.filter (isKnown known) = namedMembers occurring := by
  induction members generalizing occurring with
  | nil =>
    cases taken
    rfl
  | cons first rest ih =>
    obtain ⟨raw, item⟩ := first
    obtain ⟨key, others, rfl, later, ⟨unknown, rfl⟩ | ⟨own, -, rfl⟩⟩ := knownMembers?_cons taken
    · rw [List.filter_cons_of_neg (by simp [isKnown, unknown]), ih later]
    · rw [List.filter_cons_of_pos (by simp [isKnown, own]), ih later]
      rfl

theorem mem_of_knownMembers? (taken : knownMembers? known members = some occurring)
    (field : String × Document) :
    field ∈ occurring ↔ field.1 ∈ known ∧ field.2 ∈ occurrences members field.1 := by
  have named : field ∈ occurring ↔ (some field.1, field.2) ∈ namedMembers occurring := by
    simp [namedMembers]
  rw [named, ← filter_of_knownMembers? taken, List.mem_filter, mem_occurrences, and_comm]
  simp [isKnown]

/-- A known key is found exactly where it occurs. -/
theorem occurrences_of_knownMembers? (taken : knownMembers? known members = some occurring)
    {key : String} (member : key ∈ known) :
    occurrences members key = (Table.get? occurring key).toList := by
  rw [← occurrences_filter member, filter_of_knownMembers? taken,
    occurrences_namedMembers (nodup_of_knownMembers? taken)]

theorem isSome_of_knownMembers? (taken : knownMembers? known members = some occurring) :
    ∀ member ∈ members, member.1.isSome := by
  induction members generalizing occurring with
  | nil => simp
  | cons first rest ih =>
    obtain ⟨raw, item⟩ := first
    obtain ⟨name, others, rfl, later, -⟩ := knownMembers?_cons taken
    exact List.forall_mem_cons.mpr ⟨rfl, ih later⟩

/-- Members are taken whenever all keys have characters and no known one repeats. -/
theorem exists_knownMembers? (named : ∀ member ∈ members, member.1.isSome)
    (single : ∀ key ∈ known, (occurrences members key).length ≤ 1) :
    ∃ occurring, knownMembers? known members = some occurring := by
  induction members with
  | nil => exact ⟨[], rfl⟩
  | cons first rest ih =>
    obtain ⟨raw, item⟩ := first
    obtain ⟨key, rfl⟩ := Option.isSome_iff_exists.mp (named _ List.mem_cons_self)
    have fewer : ∀ other ∈ known, (occurrences rest other).length ≤ 1 := by
      intro other member
      have bound := single other member
      rw [occurrences_cons] at bound
      by_cases own : some key = some other
      · rw [if_pos own, List.length_cons] at bound
        omega
      · rwa [if_neg own] at bound
    obtain ⟨others, later⟩ :=
      ih (fun member later => named member (List.mem_cons_of_mem _ later)) fewer
    rw [knownMembers?, later, Option.bind_eq_bind, Option.bind_some]
    by_cases own : key ∈ known
    · have bound := single key own
      rw [occurrences_cons, if_pos rfl, occurrences_of_knownMembers? later own,
        List.length_cons] at bound
      have fresh : key ∉ others.map Prod.fst := by
        rw [← Table.keys, ← Table.get?_eq_none_iff]
        cases again : Table.get? others key with
        | none => rfl
        | some other =>
          rw [again] at bound
          exact absurd bound (by simp)
      rw [if_neg (not_not_intro own), if_neg fresh]
      exact ⟨_, rfl⟩
    · rw [if_pos own]
      exact ⟨_, rfl⟩

/-- Named fields with distinct known keys are taken as they stand. -/
theorem knownMembers?_namedMembers {fields : Table Document}
    (distinct : (Table.keys fields).Nodup) (own : ∀ field ∈ fields, field.1 ∈ known) :
    knownMembers? known (namedMembers fields) = some fields := by
  induction fields with
  | nil => rfl
  | cons field rest ih =>
    obtain ⟨fresh, apart⟩ := List.nodup_cons.mp distinct
    obtain ⟨first, later⟩ := List.forall_mem_cons.mp own
    rw [namedMembers] at ih
    rw [namedMembers, List.map_cons, knownMembers?, ih apart later, Option.bind_eq_bind,
      Option.bind_some, if_neg (not_not_intro first), if_neg fresh]
    rfl

/-- Items are paired with the known keys from the front. -/
theorem keys_zip {items : List Document} (few : items.length ≤ known.length) :
    Table.keys (known.zip items) = known.take items.length := by
  rw [Table.keys, List.zip_eq_zip_take_min, Nat.min_eq_right few, List.take_length]
  exact List.map_fst_zip (by rw [List.length_take]; exact Nat.min_le_left _ _)

end

end IdentityClaims
