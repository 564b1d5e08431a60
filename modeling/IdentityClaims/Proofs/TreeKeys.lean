import IdentityClaims.Configuration.Tree

/-!
# Keys of a configuration tree

However settings are laid over one another, the tree is a table, and every table in it that is not
inside of an array holds each of its names once.
-/

namespace IdentityClaims

/-- Values that are put into a table leave it with its own entries and the new one. -/
theorem Table.mem_of_mem_put {α : Type} {table : Table α} {key : String} {value : α}
    {entry : String × α} (member : entry ∈ put key value table) :
    entry = (key, value) ∨ entry ∈ table := by
  induction table with
  | nil => exact .inl (List.mem_singleton.mp member)
  | cons first rest ih =>
    obtain ⟨k, v⟩ := first
    by_cases same : k = key
    · subst same
      rw [put, if_pos rfl, List.mem_cons] at member
      exact member.imp_right (List.mem_cons_of_mem _)
    · rw [put, if_neg same, List.mem_cons] at member
      rcases member with first | later
      · exact .inr (first ▸ List.mem_cons_self)
      · exact (ih later).imp_right (List.mem_cons_of_mem _)

namespace Configuration

/-- A table that holds every name once, and so does every table in it. What is inside of an array
does not count. -/
inductive WellKeyed : Setting → Prop where
  | table {members : List (String × Setting)} (distinct : (Table.keys members).Nodup)
      (inner : ∀ entry ∈ members, WellKeyed entry.2) : WellKeyed (.table members)
  | other {setting : Setting} (leaf : ∀ members, setting ≠ .table members) : WellKeyed setting

namespace WellKeyed

variable {tree : Setting}

theorem null : WellKeyed .null :=
  .other (by simp)

theorem empty : WellKeyed (.table []) :=
  .table List.nodup_nil (by simp)

theorem distinct_members (keyed : WellKeyed tree) : (Table.keys (membersOf tree)).Nodup := by
  cases keyed with
  | table distinct inner => exact distinct
  | other leaf =>
    cases tree with
    | table members => exact absurd rfl (leaf members)
    | _ => exact List.nodup_nil

theorem inner_members (keyed : WellKeyed tree) : ∀ entry ∈ membersOf tree, WellKeyed entry.2 := by
  cases keyed with
  | table distinct inner => exact inner
  | other leaf =>
    cases tree with
    | table members => exact absurd rfl (leaf members)
    | _ => simp [membersOf]

/-- A change of one member keeps the names apart. -/
theorem changeMember {change : Setting → Setting}
    (kept : ∀ setting, WellKeyed setting → WellKeyed (change setting)) (name : String)
    (keyed : WellKeyed tree) : WellKeyed (changeMember name change tree) := by
  have present : WellKeyed ((Table.get? (membersOf tree) name).getD .null) := by
    cases found : Table.get? (membersOf tree) name with
    | none => exact null
    | some setting =>
      exact keyed.inner_members _ ((Table.get?_eq_some_iff keyed.distinct_members).mp found)
  refine .table (Table.nodup_keys_put _ _ _ keyed.distinct_members) fun entry member => ?_
  rcases Table.mem_of_mem_put member with rfl | old
  · exact kept _ present
  · exact keyed.inner_members entry old

mutual

theorem overlay (setting : Setting) {present : Setting} (keyed : WellKeyed present) :
    WellKeyed (overlay setting present) := by
  cases setting with
  | table members =>
    cases present with
    | null => exact overlayMembers members empty
    | _ => exact overlayMembers members keyed
  | _ => exact .other (by simp [Configuration.overlay])

theorem overlayMembers (members : List (String × Setting)) {present : Setting}
    (keyed : WellKeyed present) : WellKeyed (overlayMembers members present) := by
  cases members with
  | nil => exact keyed
  | cons entry rest =>
    obtain ⟨name, setting⟩ := entry
    rw [Configuration.overlayMembers]
    exact overlayMembers rest (keyed.changeMember (fun _ inner => overlay setting inner) name)

end

theorem changeAt {change : Setting → Setting}
    (kept : ∀ setting, WellKeyed setting → WellKeyed (change setting)) (path : KeyPath)
    (keyed : WellKeyed tree) : WellKeyed (changeAt change path tree) := by
  induction path generalizing tree with
  | nil => exact kept tree keyed
  | cons step rest ih =>
    cases step with
    | member name => exact keyed.changeMember (fun _ inner => ih inner) name
    | item index =>
      -- Whatever stands there becomes an array, in which names are not compared.
      refine .other fun members => ?_
      rw [Configuration.changeAt, changeItem]
      split <;> simp

theorem setAll (settings : List (String × Setting)) (keyed : WellKeyed tree) :
    WellKeyed (setAll tree settings) := by
  induction settings generalizing tree with
  | nil => exact keyed
  | cons setting rest ih =>
    exact ih (keyed.changeAt (fun _ inner => overlay setting.2 inner) (KeyPath.ofKey setting.1))

end WellKeyed

end Configuration

end IdentityClaims
