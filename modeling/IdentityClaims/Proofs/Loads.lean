import IdentityClaims.Claim.Decoding
import IdentityClaims.Proofs.Layering
import IdentityClaims.Proofs.TreeKeys
import IdentityClaims.Resolver.Call

/-!
# Three loads of one tree

The tree itself (`load_config`), the mapping (`load_identity_config`) and the resolver (`init`) are
loaded from one tree of settings. Where there is none, all three loads fail alike. Where there is
one, only its mapping can keep the other two from loading, and a table of texts for the mapping
never does. How the tree is built does not matter, as long as it is a table in which no name is
repeated.
-/

namespace IdentityClaims

open Json

/-! ## Settings as JSON -/

namespace Setting

theorem get?_membersToJson (members : List (String × Setting)) (name : String) :
    Table.get? (membersToJson members) name = (Table.get? members name).map toJson := by
  induction members with
  | nil => rfl
  | cons entry rest ih =>
    rw [membersToJson, Table.get?_cons, Table.get?_cons, ih]
    by_cases same : name = entry.1
    · rw [if_pos same, if_pos same, Option.map_some]
    · rw [if_neg same, if_neg same]

/-- Only a text is written as a string. -/
theorem eq_text_of_toJson {setting : Setting} {s : String} (written : setting.toJson = .string s) :
    setting = .text s := by
  cases setting with
  | text value =>
    cases written
    rfl
  | float value => cases value <;> cases written
  | _ => cases written

/-- Only a table is written as an object. -/
theorem eq_table_of_toJson {setting : Setting} {entries : List (String × Value)}
    (written : setting.toJson = .object entries) :
    ∃ members, setting = .table members ∧ membersToJson members = entries := by
  cases setting with
  | table members =>
    cases written
    exact ⟨members, rfl, rfl⟩
  | float value => cases value <;> cases written
  | _ => cases written

/-- What is written with nothing but strings is a table of texts. -/
theorem exists_textMembers {members : List (String × Setting)}
    (strings : ∀ entry ∈ membersToJson members, ∃ s, entry.2 = .string s) :
    ∃ pairs, members = Configuration.textMembers pairs ∧
      membersToJson members = pairs.map fun pair => (pair.1, .string pair.2) := by
  induction members with
  | nil => exact ⟨[], rfl, rfl⟩
  | cons entry rest ih =>
    obtain ⟨⟨s, first⟩, later⟩ := List.forall_mem_cons.mp strings
    obtain ⟨pairs, texts, written⟩ := ih later
    refine ⟨(entry.1, s) :: pairs, ?_, ?_⟩
    · rw [texts, Configuration.textMembers, Configuration.textMembers, List.map_cons,
        ← eq_text_of_toJson first]
    · rw [membersToJson, written, List.map_cons, ← first]

end Setting

/-- Loads the tree as JSON, as `load_config` does for JSON values. -/
def Sources.loadJson {Storage : Type} (build : Configuration.Builder Storage)
    (sources : Sources Storage) : Except LoadError Value :=
  (sources.loadTree build).map Setting.toJson

namespace Configuration

/-- A load fails in a context. -/
def FailsIn {α : Type} (context : String) (load : Except LoadError α) : Prop :=
  ∃ error, load = .error error ∧ error.context = context

/-- What is built is a table, and names are kept apart in it. -/
def Tabular {Storage : Type} (build : Builder Storage) : Prop :=
  ∀ {files path environment tree}, build files path environment = some tree →
    WellKeyed tree ∧ ∃ members, tree = .table members

/-! ## The tree -/

theorem exists_member_ofKey (key : String) :
    ∃ name rest, KeyPath.ofKey key = .member name :: rest := by
  unfold KeyPath.ofKey
  cases parsed : KeyPath.parse? key with
  | none => exact ⟨key, [], rfl⟩
  | some path =>
    simp only [KeyPath.parse?, Option.bind_eq_bind, Option.bind_eq_some_iff] at parsed
    obtain ⟨⟨first, rest⟩, named, further, -, same⟩ := parsed
    simp only [KeyPath.name?, Option.ite_none_left_eq_some, Option.some.injEq, Prod.mk.injEq]
      at named
    cases same
    exact ⟨_, further, by rw [Option.getD_some, ← named.2.1]⟩

theorem exists_members_setAll (settings : List (String × Setting))
    (members : List (String × Setting)) :
    ∃ after, setAll (.table members) settings = .table after := by
  induction settings generalizing members with
  | nil => exact ⟨members, rfl⟩
  | cons setting rest ih =>
    obtain ⟨name, steps, place⟩ := exists_member_ofKey setting.1
    have first : set (.table members) setting =
        changeMember name (changeAt (overlay setting.2) steps) (.table members) := by
      rw [set, place, changeAt]
    rw [setAll, List.foldl_cons, first]
    exact ih _

/-- The backend for files below the working directory builds tables. -/
theorem tabular_backend : Tabular Files.backend.build := by
  intro files path environment tree built
  simp only [Backend.build, Files.backend, Option.bind_eq_bind, Option.bind_some,
    Option.bind_eq_some_iff, Option.some.injEq] at built
  obtain ⟨settings, -, rfl⟩ := built
  exact ⟨WellKeyed.empty.setAll _, exists_members_setAll _ []⟩

/-! ## The loads -/

section Loads

variable {Storage : Type} {build : Builder Storage} {sources : Sources Storage}

theorem loadJson_of_tree {tree : Setting} (built : sources.tree? build = some tree) :
    sources.loadJson build = .ok tree.toJson := by
  rw [Sources.loadJson, Sources.loadTree, built]
  rfl

theorem loads_of_no_tree (none_built : sources.tree? build = none) :
    sources.loadJson build = .error .notBuilt ∧ sources.loadMapping build = .error .notBuilt := by
  simp only [Sources.loadJson, Sources.loadMapping, Sources.loadTree, none_built]
  exact ⟨rfl, rfl⟩

theorem loadMapping_of_undecoded {tree : Setting} (built : sources.tree? build = some tree)
    (undecoded : Mapping.ofTree? tree = none) : sources.loadMapping build = .error .notDecoded := by
  simp only [Sources.loadMapping, Sources.loadTree, built, bind, Except.bind, undecoded]
  rfl

/-- With a tree the mapping fails to be loaded only because the tree cannot be decoded. -/
theorem error_of_tree {tree : Setting} {error : LoadError} (built : sources.tree? build = some tree)
    (failed : sources.loadMapping build = .error error) : error = .notDecoded := by
  cases decoded : Mapping.ofTree? tree with
  | none =>
    rw [loadMapping_of_undecoded built decoded] at failed
    cases failed
    rfl
  | some mapping =>
    rw [loadMapping_of_tree built decoded] at failed
    cases failed

theorem loadResolver_eq_error_iff (error : LoadError) :
    sources.loadResolver build = .error error ↔ sources.loadMapping build = .error error := by
  unfold Sources.loadResolver
  cases sources.loadMapping build with
  | error other => simp [Except.map]
  | ok mapping => simp [Except.map]

/-- The tree fails to be built where there is none. -/
theorem failsIn_loadJson_iff :
    FailsIn LoadError.notBuilt.context (sources.loadJson build) ↔ sources.tree? build = none := by
  cases built : sources.tree? build with
  | none => exact ⟨fun _ => rfl, fun _ => ⟨_, (loads_of_no_tree built).1, rfl⟩⟩
  | some tree =>
    rw [loadJson_of_tree built]
    exact ⟨nofun, nofun⟩

/-- The mapping fails to be built where the tree does, and nowhere else. -/
theorem failsIn_loadMapping_iff :
    FailsIn LoadError.notBuilt.context (sources.loadMapping build) ↔
      sources.tree? build = none := by
  cases built : sources.tree? build with
  | none => exact ⟨fun _ => rfl, fun _ => ⟨_, (loads_of_no_tree built).2, rfl⟩⟩
  | some tree =>
    refine ⟨?_, nofun⟩
    rintro ⟨error, failed, context⟩
    rw [error_of_tree built failed] at context
    exact absurd context (by decide)

theorem failsIn_loadResolver_iff (context : String) :
    FailsIn context (sources.loadResolver build) ↔ FailsIn context (sources.loadMapping build) := by
  unfold FailsIn
  simp only [loadResolver_eq_error_iff]

/-- What is loaded as JSON is a tree, which is a table. -/
theorem exists_tree_of_loadJson (tabular : Tabular build) {raw : Value}
    (loaded : sources.loadJson build = .ok raw) :
    ∃ members, sources.tree? build = some (.table members) ∧
      raw = .object (Setting.membersToJson members) := by
  cases built : sources.tree? build with
  | none =>
    rw [(loads_of_no_tree built).1] at loaded
    cases loaded
  | some tree =>
    obtain ⟨-, members, rfl⟩ := tabular built
    rw [loadJson_of_tree built] at loaded
    cases loaded
    exact ⟨members, rfl, rfl⟩

/-- Without a member for the mapping no path is configured. -/
theorem loadMapping_of_no_mapping {members : List (String × Setting)}
    (built : sources.tree? build = some (.table members))
    (absent : Table.get? members "mapping" = none) : sources.loadMapping build = .ok .empty := by
  apply loadMapping_of_tree built
  rw [Mapping.ofTree?, absent]

/-- A table of texts is loaded as it stands, as no name in it is repeated. -/
theorem loadMapping_of_texts (tabular : Tabular build) {members : List (String × Setting)}
    {pairs : List (String × String)}
    (built : sources.tree? build = some (.table members))
    (found : Table.get? members "mapping" = some (.table (textMembers pairs))) :
    ∃ mapping, sources.loadMapping build = .ok mapping ∧ mapping.entries = pairs := by
  obtain ⟨keyed, -⟩ := tabular built
  have member : ("mapping", Setting.table (textMembers pairs)) ∈ members :=
    (Table.get?_eq_some_iff keyed.distinct_members).mp found
  have apart : (Table.keys (textMembers pairs)).Nodup :=
    (keyed.inner_members _ member).distinct_members
  have distinct : (Table.keys pairs).Nodup := by
    simpa [Table.keys, textMembers, Function.comp_def] using apart
  refine ⟨.ofPairs pairs, loadMapping_of_tree built ?_, Table.ofPairs_of_nodup distinct⟩
  rw [Mapping.ofTree?, found]
  simp only [Mapping.settingPairs?_textMembers, Option.map_some]

/-- The three loads stand on one tree, whatever builds it. They fail to be built for the same
sources. Where the tree is loaded, as an object, only the member for the mapping matters to the
other two: it may be absent, and an object of strings is loaded as it stands; a failure is one to
decode it. The resolver is loaded with the mapping, fails with it, and answers as one built on the
mapping. -/
theorem loads_exact (tabular : Tabular build) (sources : Sources Storage) :
    (FailsIn "Failed to build config" (sources.loadJson build) ↔
      FailsIn "Failed to build config" (sources.loadMapping build)) ∧
    (FailsIn "Failed to build config" (sources.loadJson build) ↔
      FailsIn "Failed to build config" (sources.loadResolver build)) ∧
    (∀ raw, sources.loadJson build = .ok raw →
      raw.kind = .object ∧
      (Table.get? raw.members "mapping" = none → sources.loadMapping build = .ok .empty) ∧
      (∀ entries, Table.get? raw.members "mapping" = some (.object entries) →
        (∀ entry ∈ entries, ∃ s, entry.2 = .string s) →
        ∃ mapping, sources.loadMapping build = .ok mapping ∧ mapping.toJson = .object entries) ∧
      ∀ error, sources.loadMapping build = .error error →
        error.context = "Failed to deserialize config") ∧
    (∀ error,
      sources.loadResolver build = .error error ↔ sources.loadMapping build = .error error) ∧
    (∀ mapping, sources.loadMapping build = .ok mapping →
      ∃ resolver, sources.loadResolver build = .ok resolver ∧
        ∀ payload call, resolver.answer payload call = Resolver.answer ⟨mapping⟩ payload call) := by
  refine ⟨failsIn_loadJson_iff.trans failsIn_loadMapping_iff.symm,
    failsIn_loadJson_iff.trans (failsIn_loadMapping_iff.symm.trans
      (failsIn_loadResolver_iff _).symm),
    fun raw loaded => ?_, loadResolver_eq_error_iff, fun mapping loaded => ?_⟩
  · obtain ⟨members, built, rfl⟩ := exists_tree_of_loadJson tabular loaded
    refine ⟨rfl, fun absent => ?_, fun entries object strings => ?_, fun error failed => ?_⟩
    · rw [Value.members, Setting.get?_membersToJson, Option.map_eq_none_iff] at absent
      exact loadMapping_of_no_mapping built absent
    · rw [Value.members, Setting.get?_membersToJson, Option.map_eq_some_iff] at object
      obtain ⟨setting, found, written⟩ := object
      obtain ⟨inner, rfl, rfl⟩ := Setting.eq_table_of_toJson written
      obtain ⟨pairs, rfl, texts⟩ := Setting.exists_textMembers strings
      obtain ⟨mapping, loaded, exactly⟩ := loadMapping_of_texts tabular built found
      exact ⟨mapping, loaded, by rw [Mapping.toJson, exactly, texts]⟩
    · rw [error_of_tree built failed]
      rfl
  · refine ⟨⟨mapping⟩, ?_, fun payload call => rfl⟩
    rw [Sources.loadResolver, loaded]
    rfl

end Loads

/-! The statement at a file with a mapping and nothing over it. -/

/-- The file of the profile without variables. -/
def fileSources : Configuration :=
  { profileSources with environment := [] }

/-- The object of the entries in the file. -/
def fileEntries : List (String × Value) :=
  [("Email", .string "mail"), ("locale", .string "lang")]

theorem loadJson_fileSources :
    fileSources.loadJson Files.backend.build =
      .ok (.object [("mapping", .object fileEntries)]) := by
  have settings : fileSources.files.settings? fileSources.path =
      some [("mapping", .table (textMembers [("Email", "mail"), ("locale", "lang")]))] :=
    settings?_profileSources
  have built : fileSources.tree? Files.backend.build =
      some (mappingTree (Table.ofPairs [("Email", "mail"), ("locale", "lang")])) := by
    simp only [Sources.tree?, Backend.build, Files.backend, settings, bind, Option.bind]
    exact congrArg some (set_file _)
  rw [loadJson_of_tree built]
  rfl

theorem loads_exact_file :
    Tabular Files.backend.build ∧
      fileSources.loadJson Files.backend.build =
        .ok (.object [("mapping", .object fileEntries)]) ∧
      ∃ mapping, fileSources.loadMapping = .ok mapping ∧ mapping.toJson = .object fileEntries ∧
        ∃ resolver, fileSources.loadResolver = .ok resolver ∧
          ∀ payload call,
            resolver.answer payload call = Resolver.answer ⟨mapping⟩ payload call := by
  obtain ⟨-, -, standing, -, built⟩ := loads_exact tabular_backend fileSources
  obtain ⟨-, -, texts, -⟩ := standing _ loadJson_fileSources
  obtain ⟨mapping, loaded, exactly⟩ := texts fileEntries rfl (by simp [fileEntries])
  exact ⟨tabular_backend, loadJson_fileSources, mapping, loaded, exactly, built mapping loaded⟩

end Configuration

end IdentityClaims
