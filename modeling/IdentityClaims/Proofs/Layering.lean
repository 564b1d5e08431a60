import IdentityClaims.Configuration.Loading
import IdentityClaims.Proofs.EnvironmentKeys
import IdentityClaims.Proofs.MappingEntries

/-!
# The environment over a file

To `load_identity_config` a file gives a table of texts for the mapping, and variables set entries
of it over those of the file. As variables reach names in small letters only, and the name of every
claim has a capital, no such variable has a say in the resolution of claims. This holds of every
backend that reads variables and merges settings as documented, wherever it finds files and whatever
formats it reads; the backend for files below the working directory is one of them.
-/

namespace IdentityClaims

open Text (JoinedWords)

namespace Configuration

open Environment (entryKey entryVariable)

/-! ## Keys -/

theorem isNameChar_of_letter {c : Char} (letter : c = '_' ∨ c.isLower) :
    KeyPath.isNameChar c = true := by
  rcases letter with rfl | small
  · rfl
  · simp [KeyPath.isNameChar, Char.isAlphanum, Char.isAlpha, small]

theorem name?_of_chars {cs : List Char} (nonempty : cs ≠ [])
    (chars : ∀ c ∈ cs, KeyPath.isNameChar c = true) :
    KeyPath.name? cs = some (.member (String.ofList cs), []) := by
  have taken : cs.takeWhile KeyPath.isNameChar = cs := List.takeWhile_eq_self_iff.mpr chars
  have left : cs.dropWhile KeyPath.isNameChar = [] := List.dropWhile_eq_nil_iff.mpr chars
  rw [KeyPath.name?, taken, left]
  exact if_neg nonempty

/-- The key of an entry leads to a member of the mapping. -/
theorem ofKey_entryKey {name : String} (joined : JoinedWords Char.isLower name) :
    KeyPath.ofKey (entryKey name) = [.member "mapping", .member name] := by
  have nonempty : name.toList ≠ [] := by
    intro empty
    rw [String.toList_eq_nil_iff] at empty
    subst empty
    exact joined.empty_not_mem (by decide)
  have chars : ∀ c ∈ name.toList, KeyPath.isNameChar c = true :=
    fun c member => isNameChar_of_letter (joined.mem member)
  have table : KeyPath.name? (entryKey name).toList =
      some (.member "mapping", '.' :: name.toList) := by
    rw [Environment.toList_entryKey]
    rfl
  have parsed : KeyPath.parse? (entryKey name) = some [.member "mapping", .member name] := by
    rw [KeyPath.parse?, table]
    simp only [Option.bind_eq_bind, Option.bind_some, List.length_cons, KeyPath.furtherSteps?,
      name?_of_chars nonempty chars, String.ofList_toList]
    rfl
  rw [KeyPath.ofKey, parsed, Option.getD_some]

/-! ## Trees -/

/-- Texts as the members of a table of settings. -/
def textMembers (entries : List (String × String)) : List (String × Setting) :=
  entries.map fun entry => (entry.1, .text entry.2)

/-- A tree with nothing but a mapping. -/
def mappingTree (entries : Table String) : Setting :=
  .table [("mapping", .table (textMembers entries))]

theorem changeMember_textMembers (name value : String) (entries : Table String) :
    changeMember name (overlay (.text value)) (.table (textMembers entries)) =
      .table (textMembers (Table.put name value entries)) := by
  have present : overlay (.text value) = fun _ => Setting.text value := by
    funext setting
    rw [overlay]
    exact fun _ table => by cases table
  rw [present]
  exact congrArg Setting.table (Table.put_map Setting.text name value entries)

theorem overlayMembers_textMembers (pairs : List (String × String)) (entries : Table String) :
    overlayMembers (textMembers pairs) (.table (textMembers entries)) =
      .table (textMembers (pairs.foldl (fun t pair => Table.put pair.1 pair.2 t) entries)) := by
  induction pairs generalizing entries with
  | nil => rfl
  | cons pair rest ih =>
    have step := changeMember_textMembers pair.1 pair.2 entries
    rw [List.foldl_cons, ← ih, ← step]
    rfl

/-- The table of a file, laid over nothing. -/
theorem set_file (pairs : List (String × String)) :
    set (.table []) ("mapping", .table (textMembers pairs)) =
      mappingTree (Table.ofPairs pairs) := by
  have place : KeyPath.ofKey "mapping" = [.member "mapping"] := by decide
  have laid : overlay (.table (textMembers pairs)) .null =
      .table (textMembers (Table.ofPairs pairs)) := by
    rw [overlay]
    exact overlayMembers_textMembers pairs []
  rw [set, place]
  exact congrArg (fun setting => Setting.table [("mapping", setting)]) laid

/-- An entry, laid over those of the mapping. -/
theorem set_entry {name : String} (joined : JoinedWords Char.isLower name) (value : String)
    {members : List (String × Setting)} {entries : Table String}
    (found : Table.get? members "mapping" = some (.table (textMembers entries))) :
    set (.table members) (entryKey name, .text value) =
      .table (Table.put "mapping" (.table (textMembers (Table.put name value entries)))
        members) := by
  have present : (Table.get? (membersOf (.table members)) "mapping").getD .null =
      .table (textMembers entries) := by
    rw [membersOf, found, Option.getD_some]
  have step := changeMember_textMembers name value entries
  rw [set, ofKey_entryKey joined]
  change Setting.table (Table.put "mapping" (changeMember name (overlay (.text value))
    ((Table.get? (membersOf (.table members)) "mapping").getD .null)) members) = _
  rw [present, step]

/-! ## Backends -/

/-- The mapping in a tree is a table of texts that has certain values under its keys. -/
def HoldsTexts (tree : Setting) (lookup : String → Option String) : Prop :=
  ∃ members entries, tree = .table members ∧
    Table.get? members "mapping" = some (.table (textMembers entries)) ∧
    (Table.keys entries).Nodup ∧ ∀ key, Table.get? entries key = lookup key

/-- What is documented of merging: a table keeps its keys as they are, and a later setting with a
dot in its key replaces one member of a table. -/
structure Merges (merge? : List (String × Setting) → Option Setting) : Prop where
  file : ∀ pairs, ∃ tree, merge? [("mapping", .table (textMembers pairs))] = some tree ∧
    HoldsTexts tree (Table.get? pairs.reverse)
  entry : ∀ {settings tree lookup name} (value : String), merge? settings = some tree →
    HoldsTexts tree lookup → JoinedWords Char.isLower name →
      ∃ after, merge? (settings ++ [(entryKey name, .text value)]) = some after ∧
        HoldsTexts after fun key => if key = name then some value else lookup key

/-- A backend that reads variables and merges settings as documented. -/
structure Backend.Documented {Storage : Type} (backend : Backend Storage) : Prop where
  reading : Environment.Reads backend.variables?
  merging : Merges backend.merge?

/-- Settings are merged as documented where each is set in the tree of those before it. -/
theorem merges_setAll : Merges fun settings => some (setAll (.table []) settings) where
  file pairs := by
    refine ⟨_, congrArg some (set_file pairs), _, Table.ofPairs pairs, rfl, rfl,
      Table.nodup_keys_ofPairs pairs, Table.get?_ofPairs pairs⟩
  entry {settings tree lookup name} value merged held joined := by
    obtain ⟨members, entries, rfl, found, distinct, values⟩ := held
    have set_last : setAll (.table []) (settings ++ [(entryKey name, .text value)]) =
        set (.table members) (entryKey name, .text value) := by
      rw [setAll, List.foldl_append, List.foldl_cons, List.foldl_nil]
      exact congrArg (set · _) (Option.some.inj merged)
    refine ⟨_, congrArg some (set_last.trans (set_entry joined value found)), _,
      Table.put name value entries, rfl, ?_, Table.nodup_keys_put _ _ _ distinct, fun key => ?_⟩
    · rw [Table.get?_put, if_pos rfl]
    · rw [Table.get?_put, values]

theorem Files.documented_backend : Files.backend.Documented where
  reading := Environment.reads_settings
  merging := merges_setAll

/-- Entries that are merged after other settings are seen before what those hold. -/
theorem Merges.exists_tree {merge? : List (String × Setting) → Option Setting}
    (merges : Merges merge?) {overrides : List (String × String)}
    (small : ∀ name ∈ Table.keys overrides, JoinedWords Char.isLower name)
    {settings : List (String × Setting)} {tree : Setting} {lookup : String → Option String}
    (merged : merge? settings = some tree) (held : HoldsTexts tree lookup) :
    ∃ after, merge? (settings ++ overrides.map fun entry => (entryKey entry.1, .text entry.2)) =
        some after ∧
      HoldsTexts after fun key => (Table.get? overrides.reverse key).or (lookup key) := by
  induction overrides generalizing settings tree lookup with
  | nil => exact ⟨tree, by rw [List.map_nil, List.append_nil, merged], held⟩
  | cons entry rest ih =>
    obtain ⟨first, later⟩ := List.forall_mem_cons.mp small
    obtain ⟨next, set, holds⟩ := merges.entry entry.2 merged held first
    obtain ⟨after, all, last⟩ := ih later set holds
    refine ⟨after, ?_, ?_⟩
    · rw [List.append_assoc] at all
      exact all
    · have same : (fun key => (Table.get? (entry :: rest).reverse key).or (lookup key)) =
          fun key => (Table.get? rest.reverse key).or
            (if key = entry.1 then some entry.2 else lookup key) := by
        funext key
        rw [List.reverse_cons, Table.get?_append, Table.get?_cons, Table.get?, Option.or_assoc]
        by_cases own : key = entry.1
        · rw [if_pos own, if_pos own, Option.some_or]
        · rw [if_neg own, if_neg own, Option.none_or]
      rw [same]
      exact last

end Configuration

/-! ## Mappings -/

theorem Mapping.settingPairs?_textMembers (entries : List (String × String)) :
    settingPairs? (Configuration.textMembers entries) = some entries := by
  induction entries with
  | nil => rfl
  | cons entry rest ih =>
    rw [Configuration.textMembers] at ih
    simp [Configuration.textMembers, settingPairs?, Setting.asText?, ih]

/-- The mapping of a tree has the values that the tree holds. -/
theorem Mapping.exists_of_holdsTexts {tree : Setting} {lookup : String → Option String}
    (held : Configuration.HoldsTexts tree lookup) :
    ∃ mapping, ofTree? tree = some mapping ∧ ∀ key, mapping.get? key = lookup key := by
  obtain ⟨members, entries, rfl, found, distinct, values⟩ := held
  refine ⟨.ofPairs entries, ?_, fun key => ?_⟩
  · rw [ofTree?, found]
    exact congrArg (Option.map Mapping.ofPairs) (settingPairs?_textMembers entries)
  · rw [← values key]
    exact congrArg (Table.get? · key) (Table.ofPairs_of_nodup distinct)

/-- Mappings that differ in names of small letters only agree on the claims, whose names have a
capital in front. -/
theorem Mapping.agreeOnClaims_of_small {a b : Mapping}
    (same : ∀ key, (∀ name, JoinedWords Char.isUpper name → key ≠ name.toLower) →
      a.get? key = b.get? key) : a.AgreeOnClaims b := by
  intro claim path _
  have capital : claim.logicalName.toList.any Char.isUpper = true := by
    cases claim <;> decide
  rw [same]
  intro name joined lowered
  obtain ⟨c, member, upper⟩ := List.any_eq_true.mp capital
  rw [lowered] at member
  rcases joined.toLower.mem member with rfl | small
  · cases upper
  · exact Char.not_isUpper_of_isLower small upper

/-! ## Loading -/

namespace Configuration

open Environment (entryKey entryVariable)

theorem loadMapping_of_tree {Storage : Type} {build : Builder Storage} {sources : Sources Storage}
    {tree : Setting} {mapping : Mapping} (built : sources.tree? build = some tree)
    (decoded : Mapping.ofTree? tree = some mapping) : sources.loadMapping build = .ok mapping := by
  have loaded : sources.loadTree build = .ok tree := by
    rw [Sources.loadTree, built]
  simp only [Sources.loadMapping, loaded, bind, Except.bind, decoded]
  rfl

/-- A file with a table of texts for the mapping is always loaded: the entries of variables are
seen before those of the file. -/
theorem loadMapping_of_file {Storage : Type} {backend : Backend Storage}
    (documented : backend.Documented) {sources : Sources Storage}
    {pairs overrides : List (String × String)}
    (file : backend.file? sources.files sources.path =
      some [("mapping", .table (textMembers pairs))])
    (settings : backend.variables? sources.environment =
      some (overrides.map fun entry => (entryKey entry.1, .text entry.2)))
    (small : ∀ name ∈ Table.keys overrides, JoinedWords Char.isLower name) :
    ∃ mapping, sources.loadMapping backend.build = .ok mapping ∧
      ∀ key, mapping.get? key =
        (Table.get? overrides.reverse key).or ((Mapping.ofPairs pairs).get? key) := by
  obtain ⟨base, alone, texts⟩ := documented.merging.file pairs
  obtain ⟨tree, merged, held⟩ := documented.merging.exists_tree small alone texts
  obtain ⟨mapping, decoded, values⟩ := Mapping.exists_of_holdsTexts held
  have built : sources.tree? backend.build = some tree := by
    simp only [Sources.tree?, Backend.build, file, settings, bind, Option.bind, merged]
  refine ⟨mapping, loadMapping_of_tree built decoded, fun key => ?_⟩
  rw [values key, Mapping.get?, Mapping.ofPairs, Table.get?_ofPairs]

/-- With a table of texts for the mapping in the file, variables for entries never keep it from
loading. Each sets its entry in small letters, all other entries stay as the file has them, and
every claim is chosen a path for and resolved as under the file alone. -/
theorem load_layered {Storage : Type} {backend : Backend Storage}
    (documented : backend.Documented) (sources : Sources Storage) (pairs : List (String × String))
    (file : backend.file? sources.files sources.path =
      some [("mapping", .table (textMembers pairs))])
    (entries : sources.environment.SetsEntries) :
    ∃ mapping, sources.loadMapping backend.build = .ok mapping ∧
      (∀ name, JoinedWords Char.isUpper name →
        mapping.get? name.toLower = (sources.environment.value? (entryVariable name)).or
          ((Mapping.ofPairs pairs).get? name.toLower)) ∧
      (∀ key, (∀ name, JoinedWords Char.isUpper name → key ≠ name.toLower) →
        mapping.get? key = (Mapping.ofPairs pairs).get? key) ∧
      ∃ resolver, sources.loadResolver backend.build = .ok resolver ∧
        (∀ claim, (resolver.choose claim).path = (Mapping.ofPairs pairs).pathOf claim ∧
          resolver.choose claim = Resolver.choose ⟨.ofPairs pairs⟩ claim) ∧
        ∀ payload, resolver.resolve payload = Resolver.resolve ⟨.ofPairs pairs⟩ payload := by
  obtain ⟨overrides, settings, lowered, values⟩ := documented.reading.exists_overrides entries
  have small : ∀ name ∈ Table.keys overrides, JoinedWords Char.isLower name := by
    intro key member
    obtain ⟨name, joined, rfl⟩ := lowered key member
    exact joined.toLower
  obtain ⟨mapping, loaded, lookups⟩ := loadMapping_of_file documented file settings small
  have kept : ∀ key, (∀ name, JoinedWords Char.isUpper name → key ≠ name.toLower) →
      mapping.get? key = (Mapping.ofPairs pairs).get? key := by
    intro key apart
    have unset : key ∉ Table.keys overrides.reverse := by
      rw [Table.keys, List.map_reverse, List.mem_reverse]
      intro member
      obtain ⟨name, joined, same⟩ := lowered key member
      exact apart name joined same
    rw [lookups key, (Table.get?_eq_none_iff _ _).mpr unset, Option.none_or]
  have agree : mapping.AgreeOnClaims (.ofPairs pairs) := Mapping.agreeOnClaims_of_small kept
  have chosen : ∀ claim, Resolver.choose ⟨mapping⟩ claim =
      Resolver.choose ⟨.ofPairs pairs⟩ claim := agree.choose
  refine ⟨_, loaded, fun name joined => ?_, kept, ⟨mapping⟩, ?_, fun claim => ⟨?_, chosen claim⟩,
    fun payload => ?_⟩
  · rw [lookups, values name joined]
  · rw [Sources.loadResolver, loaded]
    rfl
  · rw [chosen claim, Resolver.choose_path]
  · exact Resolver.resolve_congr fun claim => Resolver.read_congr (chosen claim) _ _ _

/-! The statement at a file with an entry for a claim and one in small letters, and at variables
that are named like both. -/

/-- The text of the file. -/
def profileText : String := "[mapping]\nEmail = 'mail'\nlocale = 'lang'\n"

/-- The characters of the file. -/
def profileChars : List Char :=
  ['[', 'm', 'a', 'p', 'p', 'i', 'n', 'g', ']', '\n', 'E', 'm', 'a', 'i', 'l', ' ', '=', ' ',
    '\'', 'm', 'a', 'i', 'l', '\'', '\n', 'l', 'o', 'c', 'a', 'l', 'e', ' ', '=', ' ', '\'', 'l',
    'a', 'n', 'g', '\'', '\n']

/-- The file and the variables, one of which has nothing to do with settings. -/
def profileSources : Configuration where
  files := [(["identity.toml"], profileText)]
  path? := none
  environment := [("HOME", "/"), ("CLAIMMAP__MAPPING__EMAIL", "other"),
    ("CLAIMMAP__MAPPING__LOCALE", "tongue")]

theorem withoutMark_profileText : Text.withoutMark profileText.toList = profileChars := by
  have chars : profileText.toList = profileChars := by decide
  rw [chars]
  rfl

theorem statements_profileText :
    Toml.Statement.parseAll? profileText =
      some [.table ["mapping"], .pair ["Email"] (.text "mail"),
        .pair ["locale"] (.text "lang")] := by
  have allowed : Toml.areAllowed profileChars = true := by decide
  have read : Toml.Reading.statements.run profileChars =
      some ([.table ["mapping"], .pair ["Email"] (.text "mail"),
        .pair ["locale"] (.text "lang")], []) := by
    rfl
  unfold Toml.Statement.parseAll?
  rw [withoutMark_profileText, if_pos allowed, read]
  rfl

theorem settings?_profileSources :
    profileSources.files.settings? profileSources.path =
      some [("mapping", .table (textMembers [("Email", "mail"), ("locale", "lang")]))] := by
  have found : profileSources.files.find? profileSources.path = some (.toml, profileText) := by
    decide +kernel
  have text : String.ofList (Text.withoutMark profileText.toList) = profileText := by
    have chars : profileText.toList = profileChars := by decide
    rw [withoutMark_profileText, ← chars, String.ofList_toList]
  have parsed : Toml.parse? profileText =
      some [("mapping", .table (textMembers [("Email", "mail"), ("locale", "lang")]))] := by
    unfold Toml.parse?
    rw [statements_profileText]
    rfl
  unfold Files.settings?
  rw [found]
  simp only [Option.bind_eq_bind, Option.bind_some, Format.settings?, text, parsed]

theorem setsEntries_profileSources : profileSources.environment.SetsEntries := by
  intro entry member setting
  have cases : entry = ("HOME", "/") ∨ entry = ("CLAIMMAP__MAPPING__EMAIL", "other") ∨
      entry = ("CLAIMMAP__MAPPING__LOCALE", "tongue") := by
    simpa [profileSources] using member
  rcases cases with rfl | rfl | rfl
  · exact absurd setting (by decide)
  · exact ⟨"EMAIL", by decide, rfl⟩
  · exact ⟨"LOCALE", by decide, rfl⟩

theorem load_layered_profile :
    Files.backend.Documented ∧
      Files.backend.file? profileSources.files profileSources.path =
        some [("mapping", .table (textMembers [("Email", "mail"), ("locale", "lang")]))] ∧
      profileSources.environment.SetsEntries ∧
      ∃ mapping, profileSources.loadMapping = .ok mapping ∧
        mapping.get? "email" = some "other" ∧ mapping.get? "locale" = some "tongue" ∧
        mapping.get? "Email" = some "mail" ∧
        ∃ resolver, profileSources.loadResolver = .ok resolver ∧
          (resolver.choose .email).path = "mail" ∧ (resolver.choose .locale).path = "locale" := by
  obtain ⟨mapping, loaded, set, kept, resolver, built, chosen, -⟩ :=
    load_layered Files.documented_backend profileSources [("Email", "mail"), ("locale", "lang")]
      settings?_profileSources setsEntries_profileSources
  refine ⟨Files.documented_backend, settings?_profileSources, setsEntries_profileSources, mapping,
    loaded, ?_, ?_, ?_, resolver, built, ?_, ?_⟩
  · have lowered : "EMAIL".toLower = "email" :=
      String.toList_inj.mp ((Text.toList_toLower _).trans (by decide))
    have value : profileSources.environment.value? (entryVariable "EMAIL") = some "other" := by
      decide
    have entry := set "EMAIL" (by decide)
    rwa [lowered, value, Option.some_or] at entry
  · have lowered : "LOCALE".toLower = "locale" :=
      String.toList_inj.mp ((Text.toList_toLower _).trans (by decide))
    have value : profileSources.environment.value? (entryVariable "LOCALE") = some "tongue" := by
      decide
    have entry := set "LOCALE" (by decide)
    rwa [lowered, value, Option.some_or] at entry
  · have capital : 'E' ∈ "Email".toList := by decide
    rw [kept "Email"]
    · rfl
    · intro name joined lowered
      rw [lowered] at capital
      rcases joined.toLower.mem capital with same | small
      · cases same
      · cases small
  · exact (chosen .email).1
  · exact (chosen .locale).1

end Configuration

end IdentityClaims
