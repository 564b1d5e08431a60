import IdentityClaims.Proofs.DecodingMeaning
import IdentityClaims.Proofs.MappingContents
import IdentityClaims.Proofs.PrintedValues
import IdentityClaims.Session.Claims
import IdentityClaims.Session.Mappings

/-!
# Written forms

A claim set has many written forms: the object of its fields in any order and among any foreign
members, or the array of its fields without some defaults at its end. A mapping is written as its
entries in any order, alone or in a configuration. From each of these forms the same is decoded
again, whatever text it is written in, and what is printed is such a text.
-/

namespace IdentityClaims

open Json

/-! ## Fields of claims -/

theorem Table.get?_map_field {α : Type} (claims : List Claim) (value : Claim → α)
    (claim : Claim) :
    Table.get? (claims.map fun own => (own.field, value own)) claim.field =
      if claim ∈ claims then some (value claim) else none := by
  induction claims with
  | nil => rfl
  | cons own rest ih =>
    rw [List.map_cons, Table.get?_cons, ih]
    by_cases same : claim = own
    · rw [same, if_pos rfl, if_pos List.mem_cons_self]
    · rw [if_neg fun fields => same (Claim.field_injective fields)]
      simp [same]

/-- Items paired with the fields from the front are the fields with these items. -/
theorem zip_map_take {α β γ : Type} (keys : α → β) (items : α → γ) (list : List α) (n : Nat) :
    (list.map keys).zip ((list.take n).map items) =
      (list.take n).map fun own => (keys own, items own) := by
  induction list generalizing n with
  | nil => simp
  | cons own rest ih =>
    cases n with
    | zero => rfl
    | succ n =>
      rw [List.take_succ_cons, List.map_cons, List.map_cons, List.zip_cons_cons, ih, List.map_cons]

/-- Members whose keys are none of the known ones. -/
def Foreign (known : List String) (members : List (RawText × Document)) : Prop :=
  ∀ member ∈ members, ∃ key, member.1 = some key ∧ key ∉ known

theorem Foreign.filter_isKnown {known : List String} {members : List (RawText × Document)}
    (foreign : Foreign known members) : members.filter (isKnown known) = [] := by
  rw [List.filter_eq_nil_iff]
  intro member occurs
  obtain ⟨key, named, unknown⟩ := foreign member occurs
  simp [isKnown, named, unknown]

/-- A record is decoded alike from its own members in any order and among any foreign ones. -/
theorem DecodesRecord.decode_of_perm {Record : Type} {decode : Document → Option Record}
    {known : List String} {accepts : String → Document → Prop}
    (decodes : DecodesRecord decode known accepts) {members own foreign : List (RawText × Document)}
    (named : ∀ member ∈ own, member.1.isSome) (apart : Foreign known foreign)
    (reordered : members.Perm (own ++ foreign)) :
    decode (.object members) = decode (.object own) := by
  refine decodes.unordered (fun member occurs => ?_) named ?_
  · rcases List.mem_append.mp (reordered.mem_iff.mp occurs) with inside | outside
    · exact named member inside
    · obtain ⟨key, key_eq, -⟩ := apart member outside
      rw [key_eq]
      rfl
  · have known := reordered.filter (isKnown known)
    rwa [List.filter_append, apart.filter_isKnown, List.append_nil] at known

theorem isSome_namedMembers (fields : Table Document) :
    ∀ member ∈ namedMembers fields, member.1.isSome := by
  intro member occurs
  obtain ⟨field, -, rfl⟩ := List.mem_map.mp occurs
  rfl

theorem foreign_toMembers {known : List String} {members : List (String × Value)}
    (apart : ∀ member ∈ members, member.1 ∉ known) : Foreign known (Value.toMembers members) := by
  rw [Value.toMembers_eq_map]
  intro member occurs
  obtain ⟨other, inside, rfl⟩ := List.mem_map.mp occurs
  exact ⟨other.1, rfl, apart other inside⟩

theorem perm_toMembers {members own foreign : List (String × Value)}
    (reordered : members.Perm (own ++ foreign)) :
    (Value.toMembers members).Perm (Value.toMembers own ++ Value.toMembers foreign) := by
  rw [Value.toMembers_eq_map, Value.toMembers_eq_map, Value.toMembers_eq_map, ← List.map_append]
  exact reordered.map _

/-! ## Written claim sets -/

namespace UserClaims

/-- The fields of some claims with the documents of their values. -/
def fieldsOf (claims : UserClaims) (own : List Claim) : Table Document :=
  own.map fun claim => (claim.field, (claims.get claim).toDocument)

/-- The documents that write a claim set. -/
inductive WrittenAs (claims : UserClaims) : Document → Prop where
  /-- All fields in any order, among any foreign members. -/
  | object {members foreign : List (RawText × Document)}
    (apart : Foreign (Claim.all.map Claim.field) foreign)
    (reordered : members.Perm (namedMembers (claims.fieldsOf Claim.all) ++ foreign)) :
    WrittenAs claims (.object members)
  /-- The fields from the front, if those left out are defaults. -/
  | array (n : Nat) (defaults : ∀ claim ∈ Claim.all.drop n, claims.get claim = .absent claim.kind) :
    WrittenAs claims (.array ((Claim.all.take n).map fun claim => (claims.get claim).toDocument))

theorem nodup_keys_fieldsOf (claims : UserClaims) {own : List Claim} (distinct : own.Nodup) :
    (Table.keys (claims.fieldsOf own)).Nodup := by
  rw [Table.keys, fieldsOf, List.map_map]
  exact List.Pairwise.map _ (fun _ _ apart same => apart (Claim.field_injective same)) distinct

/-- A claim set is decoded from the fields of some claims, if the others are defaults. -/
theorem ofDocument?_fieldsOf (claims : UserClaims) {own : List Claim} (distinct : own.Nodup)
    (defaults : ∀ claim, claim ∉ own → claims.get claim = .absent claim.kind) :
    ofDocument? (.object (namedMembers (claims.fieldsOf own))) = some claims := by
  refine (ofDocument?_object_iff _ claims).mpr ⟨isSome_namedMembers _, fun claim => ?_⟩
  rw [occurrences_namedMembers (claims.nodup_keys_fieldsOf distinct), fieldsOf,
    Table.get?_map_field]
  by_cases member : claim ∈ own
  · rw [if_pos member]
    exact .present _ (claims.kind_get claim)
  · rw [if_neg member, defaults claim member]
    exact .missing

/-- A claim set is decoded from every document that writes it. -/
theorem WrittenAs.ofDocument? {claims : UserClaims} {document : Document}
    (written : claims.WrittenAs document) : ofDocument? document = some claims := by
  have all : Claim.all.Nodup := by decide
  cases written with
  | object apart reordered =>
    rw [decodesRecord.decode_of_perm (isSome_namedMembers _) apart reordered]
    exact claims.ofDocument?_fieldsOf all fun claim out => absurd claim.mem_all out
  | array n defaults =>
    refine (decodesRecord.paired _ claims).mpr ⟨?_, ?_⟩
    · rw [List.length_map, List.length_map]
      exact List.length_take_le' n _
    · rw [zip_map_take]
      refine claims.ofDocument?_fieldsOf (all.sublist (List.take_sublist n _)) fun claim out => ?_
      have member := claim.mem_all
      rw [← List.take_append_drop n Claim.all] at member
      exact defaults claim ((List.mem_append.mp member).resolve_left out)

/-- The members that a claim set is printed with. -/
def jsonFields (claims : UserClaims) : List (String × Value) :=
  Claim.all.map fun claim => (claim.field, (claims.get claim).toJson)

theorem toJson_eq (claims : UserClaims) : claims.toJson = .object claims.jsonFields := rfl

theorem toDocument_toJson (value : ClaimValue) : value.toJson.toDocument = value.toDocument := by
  cases value <;> rfl

theorem keys_jsonFields (claims : UserClaims) :
    claims.jsonFields.map Prod.fst = Claim.all.map Claim.field := rfl

theorem values_take_jsonFields (claims : UserClaims) (n : Nat) :
    (claims.jsonFields.take n).map Prod.snd =
      (Claim.all.take n).map fun claim => (claims.get claim).toJson := by
  rw [jsonFields, ← List.map_take, List.map_map]
  rfl

theorem toMembers_jsonFields (claims : UserClaims) :
    Value.toMembers claims.jsonFields = namedMembers (claims.fieldsOf Claim.all) := by
  rw [Value.toMembers_eq_map, jsonFields, fieldsOf, namedMembers, List.map_map, List.map_map]
  exact List.map_congr_left fun claim _ =>
    congrArg (Prod.mk (some claim.field)) (toDocument_toJson (claims.get claim))

theorem writtenAs_object {claims : UserClaims} {members foreign : List (String × Value)}
    (apart : ∀ member ∈ foreign, member.1 ∉ Claim.all.map Claim.field)
    (reordered : members.Perm (claims.jsonFields ++ foreign)) :
    claims.WrittenAs (Value.object members).toDocument := by
  have documents := perm_toMembers reordered
  rw [toMembers_jsonFields] at documents
  exact .object (foreign_toMembers apart) documents

theorem writtenAs_array {claims : UserClaims} (n : Nat)
    (defaults : ∀ claim ∈ Claim.all.drop n, claims.get claim = .absent claim.kind) :
    claims.WrittenAs (Value.array
      ((Claim.all.take n).map fun claim => (claims.get claim).toJson)).toDocument := by
  have items : ((Claim.all.take n).map fun claim => (claims.get claim).toJson).map
      Value.toDocument = (Claim.all.take n).map fun claim => (claims.get claim).toDocument := by
    rw [List.map_map]
    exact List.map_congr_left fun claim _ => toDocument_toJson (claims.get claim)
  rw [Value.toDocument, Value.toDocuments_eq_map, items]
  exact .array n defaults

/-- A written claim set is loaded, whatever claim set it replaces. -/
theorem WrittenAs.run_load {claims : UserClaims} {document : Document}
    (written : claims.WrittenAs document) {text : String}
    (holds : Document.parse? text = some document) (start : UserClaims) :
    (ClaimsStep.load text).run start = (.answered true, claims) := by
  have parsed : parse? text = some claims := by
    rw [parse?, holds, Option.bind_some, written.ofDocument?]
  rw [ClaimsStep.run, parsed]

/-- A claim set is loaded from its printed members in any order, among any foreign ones. -/
theorem run_load_members (claims start : UserClaims) {members foreign : List (String × Value)}
    (apart : ∀ member ∈ foreign, member.1 ∉ Claim.all.map Claim.field)
    (reordered : members.Perm (claims.jsonFields ++ foreign)) :
    (ClaimsStep.load (Value.object members).render).run start = (.answered true, claims) :=
  (writtenAs_object apart reordered).run_load (Value.parse?_render _) start

theorem run_load_toJson (claims start : UserClaims) :
    (ClaimsStep.load claims.toJson.render).run start = (.answered true, claims) := by
  have reordered : claims.jsonFields.Perm (claims.jsonFields ++ []) := by rw [List.append_nil]
  rw [toJson_eq]
  exact claims.run_load_members start (List.forall_mem_nil _) reordered

/-- A comparison holds with the texts that the claim set is decoded from and with no other. -/
theorem run_equals_iff (start : UserClaims) (text : String) :
    ((ClaimsStep.equals text).run start).1 = .answered true ↔ parse? text = some start := by
  rw [ClaimsStep.run]
  cases parse? text with
  | none => simp
  | some other => simp [eq_comm]

end UserClaims

/-! ## Written mappings -/

namespace Mapping

/-- The documents that write a mapping: its entries in any order. -/
inductive WrittenAs (mapping : Mapping) : Document → Prop where
  | table {entries : List (String × String)} (reordered : entries.Perm mapping.entries) :
    WrittenAs mapping (textTable entries)

/-- The documents that write a configuration with a mapping. -/
inductive WrittenInside (mapping : Mapping) : Document → Prop where
  /-- The one field among any foreign members. -/
  | object {members foreign : List (RawText × Document)} {table : Document}
    (written : mapping.WrittenAs table) (apart : Foreign ["mapping"] foreign)
    (reordered : members.Perm ((some "mapping", table) :: foreign)) :
    WrittenInside mapping (.object members)
  | array {table : Document} (written : mapping.WrittenAs table) :
    WrittenInside mapping (.array [table])

/-- Mappings with the same entries, in whatever order. -/
structure Equal (a b : Mapping) : Prop where
  same : a.same b = true
  get? (key : String) : a.get? key = b.get? key

theorem equal_of_perm {a b : Mapping} (reordered : a.entries.Perm b.entries) : a.Equal b where
  same := same_iff.mpr (Table.get?_perm a.distinct reordered)
  get? := Table.get?_perm a.distinct reordered

theorem entries_ofPairs {entries : List (String × String)} {mapping : Mapping}
    (reordered : entries.Perm mapping.entries) : (ofPairs entries).entries = entries :=
  Table.ofPairs_of_nodup ((reordered.map Prod.fst).nodup_iff.mpr mapping.distinct)

/-- A mapping is decoded from every document that writes it. -/
theorem WrittenAs.ofDocument? {mapping : Mapping} {document : Document}
    (written : mapping.WrittenAs document) :
    ∃ loaded, ofDocument? document = some loaded ∧ loaded.Equal mapping := by
  obtain ⟨reordered⟩ := written
  refine ⟨.ofPairs _, ofDocument?_eq_some_iff.mpr ⟨_, rfl, rfl⟩, equal_of_perm ?_⟩
  rw [entries_ofPairs reordered]
  exact reordered

/-- A mapping is decoded from every configuration that has it. -/
theorem WrittenInside.ofConfiguration? {mapping : Mapping} {document : Document}
    (written : mapping.WrittenInside document) :
    ∃ loaded, ofConfiguration? document = some loaded ∧ loaded.Equal mapping := by
  cases written with
  | object written apart reordered =>
    obtain ⟨loaded, decoded, equal⟩ := written.ofDocument?
    rw [decodesRecord.decode_of_perm (List.forall_mem_singleton.mpr rfl) apart reordered]
    exact ⟨loaded, decoded, equal⟩
  | array written => exact written.ofDocument?

/-- A table of texts as JSON. -/
def tableJson (entries : List (String × String)) : Value :=
  .object (entries.map fun entry => (entry.1, .string entry.2))

theorem toJson_eq (mapping : Mapping) : mapping.toJson = tableJson mapping.entries := rfl

theorem toDocument_tableJson (entries : List (String × String)) :
    (tableJson entries).toDocument = textTable entries := by
  rw [tableJson, Value.toDocument, Value.toMembers_eq_map, List.map_map]
  rfl

theorem writtenInside_object {mapping : Mapping} {entries : List (String × String)}
    {members foreign : List (String × Value)} (written : entries.Perm mapping.entries)
    (apart : ∀ member ∈ foreign, member.1 ≠ "mapping")
    (reordered : members.Perm (("mapping", tableJson entries) :: foreign)) :
    mapping.WrittenInside (Value.object members).toDocument := by
  have whole : members.Perm ([("mapping", tableJson entries)] ++ foreign) := reordered
  have documents := perm_toMembers whole
  rw [Value.toMembers, toDocument_tableJson] at documents
  have others : ∀ member ∈ foreign, member.1 ∉ ["mapping"] :=
    fun member occurs own => apart member occurs (List.mem_singleton.mp own)
  exact .object (.table written) (foreign_toMembers others) documents

theorem WrittenAs.run_load {mapping : Mapping} {document : Document}
    (written : mapping.WrittenAs document) {text : String}
    (holds : Document.parse? text = some document) (registers : Registers) (into : String) :
    ∃ loaded, loaded.Equal mapping ∧
      (MappingStep.load into text).run registers = (.done, registers.putMapping into loaded) := by
  obtain ⟨loaded, decoded, equal⟩ := written.ofDocument?
  have parsed : parse? text = some loaded := by rw [parse?, holds, Option.bind_some, decoded]
  refine ⟨loaded, equal, ?_⟩
  rw [MappingStep.run, parsed]

theorem run_load_entries (mapping : Mapping) {entries : List (String × String)}
    (reordered : entries.Perm mapping.entries) (registers : Registers) (into : String) :
    ∃ loaded, loaded.Equal mapping ∧
      (MappingStep.load into (tableJson entries).render).run registers =
        (.done, registers.putMapping into loaded) := by
  have holds := Value.parse?_render (tableJson entries)
  rw [toDocument_tableJson] at holds
  exact (WrittenAs.table reordered).run_load holds registers into

theorem WrittenInside.parseConfiguration? {mapping : Mapping} {document : Document}
    (written : mapping.WrittenInside document) {text : String}
    (holds : Document.parse? text = some document) :
    ∃ loaded, loaded.Equal mapping ∧ parseConfiguration? text = some loaded := by
  obtain ⟨loaded, decoded, equal⟩ := written.ofConfiguration?
  refine ⟨loaded, equal, ?_⟩
  rw [Mapping.parseConfiguration?, holds, Option.bind_some, decoded]

theorem parseConfiguration?_members (mapping : Mapping) {entries : List (String × String)}
    {members foreign : List (String × Value)} (written : entries.Perm mapping.entries)
    (apart : ∀ member ∈ foreign, member.1 ≠ "mapping")
    (reordered : members.Perm (("mapping", tableJson entries) :: foreign)) :
    ∃ loaded, loaded.Equal mapping ∧
      parseConfiguration? (Value.object members).render = some loaded :=
  (writtenInside_object written apart reordered).parseConfiguration? (Value.parse?_render _)

end Mapping

/-! ## Both -/

/-- A claim set and a mapping are read again from what is printed for them, and from every other
text in which they are written: in every order of the printed members or entries, among any foreign
members, and without the last defaults of an array. -/
theorem written_forms_decode :
    (∀ claims start : UserClaims,
      (ClaimsStep.load claims.toJson.render).run start = (.answered true, claims) ∧
      (∃ fields, claims.toJson = .object fields ∧
        fields.map Prod.fst = Claim.all.map Claim.field ∧
        (∀ members foreign, (∀ member ∈ foreign, member.1 ∉ fields.map Prod.fst) →
          members.Perm (fields ++ foreign) →
          (ClaimsStep.load (Value.object members).render).run start = (.answered true, claims)) ∧
        (∀ n, (∀ claim ∈ Claim.all.drop n, claims.get claim = .absent claim.kind) →
          (ClaimsStep.load (Value.array ((fields.take n).map Prod.snd)).render).run start =
            (.answered true, claims))) ∧
      ∀ text document, Document.parse? text = some document → claims.WrittenAs document →
        (ClaimsStep.load text).run start = (.answered true, claims)) ∧
    (∀ (start : UserClaims) (text : String),
      ((ClaimsStep.equals text).run start).1 = .answered true ↔
        UserClaims.parse? text = some start) ∧
    (∀ (mapping : Mapping) (registers : Registers) (into : String),
      mapping.toJson = Mapping.tableJson mapping.entries ∧
      (∃ loaded, loaded.Equal mapping ∧
        (MappingStep.load into mapping.toJson.render).run registers =
          (.done, registers.putMapping into loaded)) ∧
      (∀ entries : List (String × String), entries.Perm mapping.entries →
        ∃ loaded, loaded.Equal mapping ∧
          (MappingStep.load into (Mapping.tableJson entries).render).run registers =
            (.done, registers.putMapping into loaded)) ∧
      ∀ text document, Document.parse? text = some document → mapping.WrittenAs document →
        ∃ loaded, loaded.Equal mapping ∧ (MappingStep.load into text).run registers =
          (.done, registers.putMapping into loaded)) ∧
    ∀ mapping : Mapping,
      (∃ loaded, loaded.Equal mapping ∧
        Mapping.parseConfiguration? (Value.object [("mapping", mapping.toJson)]).render =
          some loaded) ∧
      (∀ entries members foreign, entries.Perm mapping.entries →
        (∀ member ∈ foreign, member.1 ≠ "mapping") →
        members.Perm (("mapping", Mapping.tableJson entries) :: foreign) →
        ∃ loaded, loaded.Equal mapping ∧
          Mapping.parseConfiguration? (Value.object members).render = some loaded) ∧
      ∀ text document, Document.parse? text = some document → mapping.WrittenInside document →
        ∃ loaded, loaded.Equal mapping ∧ Mapping.parseConfiguration? text = some loaded := by
  refine ⟨fun claims start => ⟨claims.run_load_toJson start, ?_, ?_⟩, UserClaims.run_equals_iff,
    fun mapping registers into => ⟨mapping.toJson_eq, ?_, ?_, ?_⟩, fun mapping => ⟨?_, ?_, ?_⟩⟩
  · refine ⟨claims.jsonFields, claims.toJson_eq, claims.keys_jsonFields, ?_, fun n defaults => ?_⟩
    · rw [claims.keys_jsonFields]
      exact fun members foreign => claims.run_load_members start
    · rw [claims.values_take_jsonFields]
      exact (UserClaims.writtenAs_array n defaults).run_load (Value.parse?_render _) start
  · exact fun text document holds written => written.run_load holds start
  · rw [mapping.toJson_eq]
    exact mapping.run_load_entries (.refl _) registers into
  · exact fun entries reordered => mapping.run_load_entries reordered registers into
  · exact fun text document holds written => written.run_load holds registers into
  · rw [mapping.toJson_eq]
    exact mapping.parseConfiguration?_members (.refl _) (List.forall_mem_nil _) (.refl _)
  · exact fun entries members foreign => mapping.parseConfiguration?_members
  · exact fun text document holds written => written.parseConfiguration? holds

end IdentityClaims
