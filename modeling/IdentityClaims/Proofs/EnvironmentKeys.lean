import IdentityClaims.Configuration.Environment
import IdentityClaims.Proofs.JoinedWords

/-!
# Keys that variables set

A variable `CLAIMMAP__MAPPING__NAME`, whose name ends in words of capital letters joined by single
underscores, sets the key `mapping.name`: the words are lowered, and nothing else happens to them.
Of a reading of variables that is all that is asked, besides that a variable without the lead-in
sets nothing.
-/

namespace IdentityClaims.Configuration.Environment

open Text

/-- Whether the name of a variable has the lead-in of settings, in whatever case. -/
def IsSetting (name : String) : Prop :=
  leadIn <+: (lowerText name).toList

instance (name : String) : Decidable (IsSetting name) :=
  inferInstanceAs (Decidable (_ <+: _))

/-- The variable for an entry of the mapping. -/
def entryVariable (name : String) : String :=
  "CLAIMMAP__MAPPING__" ++ name

/-- The key of an entry of the mapping. -/
def entryKey (name : String) : String :=
  "mapping." ++ name

theorem key?_eq_none_iff (name : String) : key? name = none ↔ ¬ IsSetting name := by
  unfold key? IsSetting
  rw [← List.isPrefixOf_iff_prefix]
  simp

/-- Between single underscores no dot is written. -/
theorem dotted_of_single {cs : List Char} (single : ¬ ['_', '_'] <:+: cs) : dotted cs = cs := by
  induction cs with
  | nil => rfl
  | cons c rest ih =>
    rw [List.infix_cons_iff, not_or] at single
    obtain ⟨front, later⟩ := single
    have lone : ∀ others, c = '_' → rest = '_' :: others → False := by
      rintro others rfl rfl
      exact front ⟨others, rfl⟩
    rw [dotted.eq_2 c rest lone, ih later]

variable {name : String}

theorem toList_entryVariable (name : String) :
    (entryVariable name).toList = "CLAIMMAP__MAPPING__".toList ++ name.toList :=
  String.toList_append

theorem toList_entryKey (name : String) :
    (entryKey name).toList = "mapping".toList ++ '.' :: name.toList := by
  have whole : (entryKey name).toList = "mapping.".toList ++ name.toList := String.toList_append
  rw [whole]
  rfl

theorem ascii_entryVariable (joined : JoinedWords Char.isUpper name) :
    ∀ c ∈ (entryVariable name).toList, c.toNat < 128 := by
  have fixed : "CLAIMMAP__MAPPING__".toList.all (·.toNat < 128) = true := by decide
  intro c member
  rw [toList_entryVariable] at member
  rcases List.mem_append.mp member with leading | own
  · exact of_decide_eq_true (List.all_eq_true.mp fixed c leading)
  · rcases joined.mem own with rfl | capital
    · decide
    · have range := toNat_of_isUpper capital
      omega

/-- The name of such a variable in small letters. -/
theorem lowerText_entryVariable (joined : JoinedWords Char.isUpper name) :
    (lowerText (entryVariable name)).toList =
      leadIn ++ ("mapping__".toList ++ name.toLower.toList) := by
  have fixed : "CLAIMMAP__MAPPING__".toList.map Char.toLower = leadIn ++ "mapping__".toList := by
    decide
  rw [lowerText_of_ascii (ascii_entryVariable joined), toList_toLower name]
  calc (entryVariable name).toLower.toList
      = (entryVariable name).toList.map Char.toLower := toList_toLower _
    _ = "CLAIMMAP__MAPPING__".toList.map Char.toLower ++ name.toList.map Char.toLower := by
        rw [toList_entryVariable, List.map_append]
    _ = leadIn ++ ("mapping__".toList ++ name.toList.map Char.toLower) := by
        rw [fixed, List.append_assoc]

/-- A key of two levels is tidied level by level. -/
theorem tidied_entryKey (joined : JoinedWords Char.isLower name) :
    tidied ("mapping".toList ++ '.' :: name.toList) = "mapping".toList ++ '.' :: name.toList := by
  have free : '.' ∉ name.toList := by
    intro member
    rcases joined.mem member with dot | small
    · cases dot
    · cases small
  have levels : splitChars '.' ("mapping".toList ++ '.' :: name.toList) =
      ("mapping".toList, [name.toList]) := by
    change ("mapping".toList,
      (splitChars '.' name.toList).1 :: (splitChars '.' name.toList).2) = _
    rw [splitChars_of_not_mem free]
  have table : underscored "mapping".toList = "mapping".toList :=
    underscored_of_joinedWords (by decide)
  rw [tidied, levels]
  simp only [List.map_cons, List.map_nil, table, underscored_of_joinedWords joined]
  simp [List.intercalate]

/-- What such a variable sets. -/
theorem key?_entryVariable (joined : JoinedWords Char.isUpper name) :
    key? (entryVariable name) = some (entryKey name.toLower) := by
  have single : ¬ ['_', '_'] <:+: name.toLower.toList := by
    have full := joined.toLower.empty_not_mem
    rw [empty_mem_pieces_iff] at full
    grind
  have inner : dotted ("mapping__".toList ++ name.toLower.toList) =
      "mapping".toList ++ '.' :: name.toLower.toList := by
    change "mapping".toList ++ '.' :: dotted name.toLower.toList = _
    rw [dotted_of_single single]
  have leads : leadIn.isPrefixOf (leadIn ++ ("mapping__".toList ++ name.toLower.toList)) = true :=
    List.isPrefixOf_iff_prefix.mpr (List.prefix_append _ _)
  have key : String.ofList ("mapping".toList ++ '.' :: name.toLower.toList) =
      entryKey name.toLower := by
    rw [← String.toList_inj, String.toList_ofList, toList_entryKey]
  rw [key?, lowerText_entryVariable joined, if_pos leads, List.drop_left, inner,
    tidied_entryKey joined.toLower, key]

/-! ## All variables -/

/-- The value of a variable; of two variables with one name the later counts. -/
def value? (environment : Environment) (name : String) : Option String :=
  Table.get? environment.reverse name

/-- Every setting among the variables is one for an entry of the mapping. -/
def SetsEntries (environment : Environment) : Prop :=
  ∀ entry ∈ environment, IsSetting entry.1 →
    ∃ name, JoinedWords Char.isUpper name ∧ entry.1 = entryVariable name

theorem value?_cons (entry : String × String) (environment : Environment) (name : String) :
    value? (entry :: environment) name =
      (value? environment name).or (if name = entry.1 then some entry.2 else none) := by
  rw [value?, List.reverse_cons, Table.get?_append, Table.get?_cons, Table.get?, value?]

theorem settings_cons (entry : String × String) (environment : Environment) :
    settings (entry :: environment) =
      ((key? entry.1).map fun key => (key, Setting.text entry.2)).toList ++
        settings environment := by
  obtain ⟨name, value⟩ := entry
  cases found : key? name <;> simp [settings, found]

theorem entryVariable_injective {other : String}
    (same : entryVariable name = entryVariable other) : name = other := by
  have chars := congrArg String.toList same
  rw [toList_entryVariable, toList_entryVariable] at chars
  exact String.toList_inj.mp (List.append_cancel_left chars)

theorem isSetting_entryVariable (joined : JoinedWords Char.isUpper name) :
    IsSetting (entryVariable name) := by
  unfold IsSetting
  rw [lowerText_entryVariable joined]
  exact List.prefix_append _ _

/-- What is documented of reading variables: those without the lead-in set nothing, and those of
entries set their keys, lowered and with a dot between their levels. -/
structure Reads (variables? : Environment → Option (List (String × Setting))) : Prop where
  nothing : variables? [] = some []
  other : ∀ name value rest, ¬ IsSetting name →
    variables? ((name, value) :: rest) = variables? rest
  entry : ∀ name value rest, JoinedWords Char.isUpper name →
    variables? ((entryVariable name, value) :: rest) =
      (variables? rest).map ((entryKey name.toLower, .text value) :: ·)

/-- The settings of an environment are read as documented. -/
theorem reads_settings : Reads fun environment => some environment.settings where
  nothing := rfl
  other name value rest unset := by
    rw [settings_cons, (key?_eq_none_iff name).mpr unset]
    rfl
  entry name value rest joined := by
    rw [settings_cons, key?_entryVariable joined]
    rfl

/-- The settings are entries of the mapping in small letters, each with the value of its
variable. -/
theorem Reads.exists_overrides {variables? : Environment → Option (List (String × Setting))}
    (reads : Reads variables?) {environment : Environment} (entries : SetsEntries environment) :
    ∃ overrides : List (String × String),
      variables? environment =
        some (overrides.map fun entry => (entryKey entry.1, .text entry.2)) ∧
      (∀ key ∈ Table.keys overrides, ∃ name, JoinedWords Char.isUpper name ∧
        key = name.toLower) ∧
      ∀ name, JoinedWords Char.isUpper name →
        Table.get? overrides.reverse name.toLower = value? environment (entryVariable name) := by
  induction environment with
  | nil => exact ⟨[], reads.nothing, by simp [Table.keys], fun _ _ => rfl⟩
  | cons entry rest ih =>
    obtain ⟨label, value⟩ := entry
    obtain ⟨first, later⟩ := List.forall_mem_cons.mp entries
    obtain ⟨overrides, set, small, values⟩ := ih later
    by_cases setting : IsSetting label
    · obtain ⟨own, joined, rfl⟩ := first setting
      refine ⟨(own.toLower, value) :: overrides, ?_, ?_, ?_⟩
      · rw [reads.entry own value rest joined, set]
        rfl
      · intro key member
        rcases List.mem_cons.mp member with rfl | among
        · exact ⟨own, joined, rfl⟩
        · exact small key among
      · intro name capitals
        have same : name.toLower = own.toLower ↔ entryVariable name = entryVariable own := by
          constructor
          · intro lowered
            rw [capitals.toLower_injective joined lowered]
          · intro matching
            rw [entryVariable_injective matching]
        -- On both sides what comes later is asked first.
        rw [List.reverse_cons, Table.get?_append, values name capitals, value?_cons,
          Table.get?_cons, Table.get?]
        simp only [same]
    · refine ⟨overrides, ?_, small, ?_⟩
      · rw [reads.other label value rest setting, set]
      · -- A variable of an entry is a setting, so this one is never the variable asked for.
        intro name capitals
        have other : entryVariable name ≠ label :=
          fun same => setting (same ▸ isSetting_entryVariable capitals)
        rw [values name capitals, value?_cons, if_neg other, Option.or_none]

end IdentityClaims.Configuration.Environment
