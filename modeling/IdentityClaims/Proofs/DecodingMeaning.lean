import IdentityClaims.Proofs.RecordFields

/-!
# What the decoders accept

Claim sets and configurations are decoded from records in the same way: from an object in which no
known key repeats and every known key holds what its field accepts, in any order and among any
unknown members, or from an array that pairs with the fields from the front. Inside a
configuration the mapping is a table of texts, in which a repeated key keeps its last value.
-/

namespace IdentityClaims

open Json

/-! ## Decoders of records -/

/-- A decoder of records with the known fields, each of which accepts some documents. -/
structure DecodesRecord {Record : Type} (decode : Document → Option Record) (known : List String)
    (accepts : String → Document → Prop) : Prop where
  /-- An object is decoded exactly if no known key repeats and each holds what is accepted. -/
  accepted (members : List (RawText × Document)) :
    (∃ record, decode (.object members) = some record) ↔
      (∀ member ∈ members, member.1.isSome) ∧
        ∀ key ∈ known, (occurrences members key).length ≤ 1 ∧
          ∀ item ∈ occurrences members key, accepts key item
  /-- Neither the order of the members nor the unknown ones count. -/
  unordered {members others : List (RawText × Document)}
    (named : ∀ member ∈ members, member.1.isSome) (named' : ∀ member ∈ others, member.1.isSome)
    (same : (members.filter (isKnown known)).Perm (others.filter (isKnown known))) :
    decode (.object members) = decode (.object others)
  /-- An array is decoded as the object of the fields from the front that have an item. -/
  paired (items : List Document) (record : Record) :
    decode (.array items) = some record ↔
      items.length ≤ known.length ∧
        decode (.object (namedMembers (known.zip items))) = some record
  /-- Nothing else is decoded. -/
  rejected (document : Document) (object : ∀ members, document ≠ .object members)
    (array : ∀ items, document ≠ .array items) : decode document = none

section

variable {Record : Type} {decode : Document → Option Record} {known : List String}
  {build : Table Document → Option Record}
  (decode_eq : ∀ document, decode document = (document.fields? known).bind build)

include decode_eq

/-- A decoder that builds its record of the fields that occur decodes records, if it accepts the
fields one by one and their order does not count. -/
theorem decodesRecord_of_build {accepts : String → Document → Prop} (distinct : known.Nodup)
    (accepted : ∀ fields : Table Document, (∀ field ∈ fields, field.1 ∈ known) →
      (Table.keys fields).Nodup →
      ((∃ record, build fields = some record) ↔ ∀ field ∈ fields, accepts field.1 field.2))
    (unordered : ∀ {fields others : Table Document}, (∀ field ∈ fields, field.1 ∈ known) →
      (Table.keys fields).Nodup → fields.Perm others → build fields = build others) :
    DecodesRecord decode known accepts where
  accepted members := by
    rw [decode_eq, Document.fields?]
    constructor
    · rintro ⟨record, decoded⟩
      obtain ⟨occurring, taken, built⟩ := Option.bind_eq_some_iff.mp decoded
      have inside : ∀ field ∈ occurring, field.1 ∈ known :=
        fun field occurs => ((mem_of_knownMembers? taken field).mp occurs).1
      have fields := (accepted occurring inside (nodup_of_knownMembers? taken)).mp ⟨record, built⟩
      refine ⟨isSome_of_knownMembers? taken, fun key member => ⟨?_, fun item occurs => ?_⟩⟩
      · rw [occurrences_of_knownMembers? taken member]
        cases Table.get? occurring key <;> simp
      · exact fields (key, item) ((mem_of_knownMembers? taken (key, item)).mpr ⟨member, occurs⟩)
    · rintro ⟨named, fields⟩
      obtain ⟨occurring, taken⟩ :=
        exists_knownMembers? named fun key member => (fields key member).1
      rw [taken, Option.bind_some]
      refine (accepted occurring (fun field occurs => ?_) (nodup_of_knownMembers? taken)).mpr
        fun field occurs => ?_
      · exact ((mem_of_knownMembers? taken field).mp occurs).1
      · obtain ⟨member, found⟩ := (mem_of_knownMembers? taken field).mp occurs
        exact (fields field.1 member).2 field.2 found
  unordered {members others} named named' same := by
    have reordered : ∀ key ∈ known,
        (occurrences members key).Perm (occurrences others key) := by
      intro key member
      rw [← occurrences_filter member members, ← occurrences_filter member others]
      exact occurrences_perm same key
    rw [decode_eq, decode_eq, Document.fields?, Document.fields?]
    cases taken : knownMembers? known members with
    | none =>
      cases taken' : knownMembers? known others with
      | none => rfl
      | some occurring =>
        -- What is taken of the other members has the lengths that allow taking it here.
        obtain ⟨again, found⟩ := exists_knownMembers? named fun key member => by
          rw [(reordered key member).length_eq, occurrences_of_knownMembers? taken' member]
          cases Table.get? occurring key <;> simp
        rw [taken] at found
        cases found
    | some occurring =>
      obtain ⟨again, taken'⟩ := exists_knownMembers? named' fun key member => by
        rw [← (reordered key member).length_eq, occurrences_of_knownMembers? taken member]
        cases Table.get? occurring key <;> simp
      rw [filter_of_knownMembers? taken, filter_of_knownMembers? taken'] at same
      rw [taken', Option.bind_some, Option.bind_some]
      refine unordered (fun field occurs => ((mem_of_knownMembers? taken field).mp occurs).1)
        (nodup_of_knownMembers? taken) ?_
      exact (List.map_perm_map_iff fun a b same => by simpa [Prod.ext_iff] using same).mp same
  paired items record := by
    rw [decode_eq, decode_eq, Document.fields?, Document.fields?]
    by_cases few : items.length ≤ known.length
    · have apart : (Table.keys (known.zip items)).Nodup := by
        rw [keys_zip few]
        exact distinct.sublist (List.take_sublist _ _)
      rw [if_pos few, knownMembers?_namedMembers apart fun field occurs =>
        (List.of_mem_zip occurs).1]
      simp [few]
    · rw [if_neg few]
      simp [few]
  rejected document object array := by
    rw [decode_eq]
    cases document with
    | object members => exact absurd rfl (object members)
    | array items => exact absurd rfl (array items)
    | _ => rfl

end

/-! ## Claim sets -/

/-- The document that writes a value. -/
def ClaimValue.toDocument : ClaimValue → Document
  | .flag b => .boolean b
  | .text s => .text (some s)

theorem Json.Document.claimValue?_eq_some_iff {kind : ClaimKind} {item : Document}
    {value : ClaimValue} :
    item.claimValue? kind = some value ↔ value.kind = kind ∧ item = value.toDocument := by
  constructor
  · intro decoded
    cases kind with
    | boolean =>
      cases item with
      | boolean flag =>
        cases decoded
        exact ⟨rfl, rfl⟩
      | _ => cases decoded
    | text =>
      cases item with
      | text raw =>
        cases raw with
        | none => cases decoded
        | some text =>
          cases decoded
          exact ⟨rfl, rfl⟩
      | _ => cases decoded
  · rintro ⟨rfl, rfl⟩
    cases value <;> rfl

/-- Fields tell claims apart. -/
theorem Claim.field_injective {a b : Claim} (same : a.field = b.field) : a = b := by
  have found := (ofField?_eq_some_iff b.field a).mpr same
  rw [(ofField?_eq_some_iff b.field b).mpr rfl] at found
  exact (Option.some.inj found).symm

namespace UserClaims

/-- A field of a claim set accepts the documents of values of its kind. -/
def accepts (key : String) (item : Document) : Prop :=
  ∃ (claim : Claim) (value : ClaimValue),
    claim.field = key ∧ value.kind = claim.kind ∧ item = value.toDocument

/-- A field accepts nothing but flags if its claim is one, and nothing but texts otherwise. -/
theorem accepts_field_iff (claim : Claim) (item : Document) :
    accepts claim.field item ↔
      ∃ value : ClaimValue, value.kind = claim.kind ∧ item = value.toDocument := by
  constructor
  · rintro ⟨owner, value, named, written⟩
    rw [← Claim.field_injective named]
    exact ⟨value, written⟩
  · rintro ⟨value, written⟩
    exact ⟨claim, value, rfl, written⟩

theorem not_accepts_null (key : String) : ¬ accepts key .null := by
  rintro ⟨_, value, -, -, written⟩
  cases value <;> cases written

/-- The value of a field of a kind by the documents under its key. -/
inductive FieldReads (kind : ClaimKind) : List Document → ClaimValue → Prop where
  | missing : FieldReads kind [] (.absent kind)
  | present (value : ClaimValue) (own : value.kind = kind) :
    FieldReads kind [value.toDocument] value

theorem exists_decodeField?_iff (claims : UserClaims) (field : String × Document) :
    (∃ next, decodeField? claims field = some next) ↔ accepts field.1 field.2 := by
  constructor
  · rintro ⟨next, decoded⟩
    obtain ⟨claim, value, named, taken, -⟩ := get_of_decodeField? decoded
    exact ⟨claim, value, named, Document.claimValue?_eq_some_iff.mp taken⟩
  · rintro ⟨claim, value, named, written⟩
    obtain ⟨next, stored⟩ := claims.exists_store? written.1
    refine ⟨next, ?_⟩
    rw [decodeField?, (Claim.ofField?_eq_some_iff field.1 claim).mpr named, Option.bind_eq_bind,
      Option.bind_some, Document.claimValue?_eq_some_iff.mpr written]
    exact stored

theorem exists_decodeFields_iff (fields : Table Document) (start : UserClaims) :
    (∃ claims, fields.foldlM decodeField? start = some claims) ↔
      ∀ field ∈ fields, accepts field.1 field.2 := by
  induction fields generalizing start with
  | nil => simp
  | cons field rest ih =>
    rw [List.foldlM_cons, List.forall_mem_cons, ← exists_decodeField?_iff start]
    constructor
    · rintro ⟨claims, decoded⟩
      obtain ⟨next, first, later⟩ := Option.bind_eq_some_iff.mp decoded
      exact ⟨⟨next, first⟩, (ih next).mp ⟨claims, later⟩⟩
    · rintro ⟨⟨next, first⟩, later⟩
      obtain ⟨claims, decoded⟩ := (ih next).mpr later
      exact ⟨claims, by rw [first]; exact decoded⟩

/-- Fields with distinct keys are decoded alike in every order. -/
theorem decodeFields_perm {fields others : Table Document} (distinct : (Table.keys fields).Nodup)
    (reordered : fields.Perm others) (start : UserClaims) :
    fields.foldlM decodeField? start = others.foldlM decodeField? start := by
  have apart : (Table.keys others).Nodup := (reordered.map Prod.fst).nodup_iff.mp distinct
  have both : (∃ claims, fields.foldlM decodeField? start = some claims) ↔
      ∃ claims, others.foldlM decodeField? start = some claims := by
    rw [exists_decodeFields_iff, exists_decodeFields_iff]
    exact forall_congr' fun field => by rw [reordered.mem_iff]
  cases decoded : fields.foldlM decodeField? start with
  | none =>
    cases decoded' : others.foldlM decodeField? start with
    | none => rfl
    | some claims =>
      obtain ⟨_, found⟩ := both.mpr ⟨claims, decoded'⟩
      rw [decoded] at found
      cases found
  | some claims =>
    obtain ⟨claims', decoded'⟩ := both.mp ⟨claims, decoded⟩
    rw [decoded']
    congr 1
    apply ext_get
    intro claim
    have field := get_of_decodeFields decoded distinct claim
    have field' := get_of_decodeFields decoded' apart claim
    rw [Table.get?_perm distinct reordered] at field
    cases occurs : Table.get? others claim.field with
    | none =>
      rw [occurs] at field field'
      exact field.trans field'.symm
    | some item =>
      rw [occurs] at field field'
      exact Option.some.inj (field.symm.trans field')

theorem decodesRecord : DecodesRecord ofDocument? (Claim.all.map Claim.field) accepts :=
  decodesRecord_of_build (fun _ => rfl) (by decide)
    (fun fields _ _ => exists_decodeFields_iff fields {})
    fun _ distinct reordered => decodeFields_perm distinct reordered {}

/-- Every field of a decoded claim set is what its key holds, or else the default. -/
theorem fieldReads_of_ofDocument? {members : List (RawText × Document)} {claims : UserClaims}
    (decoded : ofDocument? (.object members) = some claims) (claim : Claim) :
    FieldReads claim.kind (occurrences members claim.field) (claims.get claim) := by
  obtain ⟨occurring, taken, fields⟩ := Option.bind_eq_some_iff.mp decoded
  have known : claim.field ∈ Claim.all.map Claim.field := List.mem_map_of_mem claim.mem_all
  have field := get_of_decodeFields fields (nodup_of_knownMembers? taken) claim
  rw [occurrences_of_knownMembers? taken known]
  cases occurs : Table.get? occurring claim.field with
  | none =>
    rw [occurs] at field
    rw [field, get_default]
    exact .missing
  | some item =>
    rw [occurs] at field
    obtain ⟨own, rfl⟩ := Document.claimValue?_eq_some_iff.mp field
    exact .present _ own

/-- The documents under a key leave no choice of the value. -/
theorem FieldReads.unique {kind : ClaimKind} {items : List Document} {value other : ClaimValue}
    (reads : FieldReads kind items value) (reads' : FieldReads kind items other) :
    value = other := by
  cases reads with
  | missing =>
    cases reads'
    rfl
  | present value own =>
    generalize written : [value.toDocument] = items at reads'
    cases reads' with
    | missing => cases written
    | present other own' =>
      cases value <;> cases other <;> cases written <;> rfl

/-- The field accepts the documents that it is read from. -/
theorem FieldReads.accepted {claim : Claim} {items : List Document} {value : ClaimValue}
    (reads : FieldReads claim.kind items value) :
    items.length ≤ 1 ∧ ∀ item ∈ items, accepts claim.field item := by
  cases reads with
  | missing => exact ⟨Nat.zero_le _, List.forall_mem_nil _⟩
  | present value own =>
    exact ⟨Nat.le_refl _, List.forall_mem_singleton.mpr ⟨claim, value, rfl, own, rfl⟩⟩

/-- A claim set is decoded from the objects that hold each of its fields, or miss it if it is the
default. -/
theorem ofDocument?_object_iff (members : List (RawText × Document)) (claims : UserClaims) :
    ofDocument? (.object members) = some claims ↔
      (∀ member ∈ members, member.1.isSome) ∧
        ∀ claim : Claim, FieldReads claim.kind (occurrences members claim.field)
          (claims.get claim) := by
  constructor
  · intro decoded
    exact ⟨((decodesRecord.accepted members).mp ⟨claims, decoded⟩).1,
      fieldReads_of_ofDocument? decoded⟩
  · rintro ⟨named, fields⟩
    obtain ⟨others, decoded⟩ := (decodesRecord.accepted members).mpr ⟨named, fun key known => by
      obtain ⟨claim, -, rfl⟩ := List.mem_map.mp known
      exact (fields claim).accepted⟩
    have same : others = claims :=
      ext_get fun claim => (fieldReads_of_ofDocument? decoded claim).unique (fields claim)
    rw [decoded, same]

end UserClaims

/-! ## Configurations -/

namespace Mapping

/-- The document of a table of texts. -/
def textTable (entries : List (String × String)) : Document :=
  .object (entries.map fun entry => (some entry.1, .text (some entry.2)))

/-- The one field of a configuration accepts tables of texts. -/
def accepts (key : String) (item : Document) : Prop :=
  key = "mapping" ∧ ∃ entries, item = textTable entries

theorem pairs?_eq_some_iff {members : List (RawText × Document)}
    {pairs : List (String × String)} :
    pairs? members = some pairs ↔
      members = pairs.map fun entry => (some entry.1, .text (some entry.2)) := by
  induction members generalizing pairs with
  | nil => cases pairs <;> simp [pairs?]
  | cons member rest ih =>
    constructor
    · intro taken
      unfold pairs? at taken
      split at taken
      · next first => cases first
      · next key value later first =>
        cases first
        obtain ⟨others, read, whole⟩ := Option.bind_eq_some_iff.mp taken
        cases whole
        rw [ih.mp read, List.map_cons]
      · cases taken
    · intro written
      cases pairs with
      | nil => cases written
      | cons pair others =>
        obtain ⟨rfl, later⟩ := List.cons_eq_cons.mp written
        rw [pairs?, ih.mpr later]
        rfl

theorem ofDocument?_eq_some_iff {item : Document} {mapping : Mapping} :
    ofDocument? item = some mapping ↔
      ∃ entries, item = textTable entries ∧ mapping = .ofPairs entries := by
  constructor
  · intro decoded
    cases item with
    | object members =>
      obtain ⟨pairs, read, whole⟩ := Option.map_eq_some_iff.mp decoded
      exact ⟨pairs, congrArg Document.object (pairs?_eq_some_iff.mp read), whole.symm⟩
    | _ => cases decoded
  · rintro ⟨entries, rfl, rfl⟩
    exact Option.map_eq_some_iff.mpr ⟨entries, pairs?_eq_some_iff.mpr rfl, rfl⟩

/-- The mapping of a configuration by the documents under its one key: the last value of every
key in the table. -/
inductive TableReads : List Document → Mapping → Prop where
  | missing : TableReads [] .empty
  | present (entries : List (String × String)) (mapping : Mapping)
    (last : ∀ key, mapping.get? key = Table.get? entries.reverse key) :
    TableReads [textTable entries] mapping

theorem not_accepts_null (key : String) : ¬ accepts key .null := by
  rintro ⟨-, _, written⟩
  cases written

/-- The mapping that the fields of a configuration write, of which there is one at most. -/
def ofFields? : Table Document → Option Mapping
  | (_, item) :: _ => ofDocument? item
  | [] => some empty

theorem ofConfiguration?_eq (document : Document) :
    ofConfiguration? document = (document.fields? ["mapping"]).bind ofFields? := by
  unfold ofConfiguration?
  refine Option.bind_congr fun fields _ => ?_
  cases fields <;> rfl

/-- Distinct fields of a configuration are none, or the one that it has. -/
theorem fields_cases {fields : Table Document} (own : ∀ field ∈ fields, field.1 ∈ ["mapping"])
    (distinct : (Table.keys fields).Nodup) :
    fields = [] ∨ ∃ item, fields = [("mapping", item)] := by
  match fields with
  | [] => exact .inl rfl
  | [(key, item)] =>
    obtain rfl := List.mem_singleton.mp (own _ List.mem_cons_self)
    exact .inr ⟨item, rfl⟩
  | first :: second :: rest =>
    have one := List.mem_singleton.mp (own first List.mem_cons_self)
    have other := List.mem_singleton.mp (own second (List.mem_cons_of_mem _ List.mem_cons_self))
    have apart := (List.nodup_cons.mp distinct).1
    rw [one, ← other] at apart
    exact absurd List.mem_cons_self apart

theorem exists_ofFields?_iff {fields : Table Document}
    (own : ∀ field ∈ fields, field.1 ∈ ["mapping"]) (distinct : (Table.keys fields).Nodup) :
    (∃ mapping, ofFields? fields = some mapping) ↔
      ∀ field ∈ fields, accepts field.1 field.2 := by
  obtain rfl | ⟨item, rfl⟩ := fields_cases own distinct
  · exact ⟨fun _ _ occurs => absurd occurs List.not_mem_nil, fun _ => ⟨empty, rfl⟩⟩
  · rw [List.forall_mem_singleton, ofFields?]
    constructor
    · rintro ⟨mapping, decoded⟩
      obtain ⟨entries, written, -⟩ := ofDocument?_eq_some_iff.mp decoded
      exact ⟨rfl, entries, written⟩
    · rintro ⟨-, entries, written⟩
      exact ⟨.ofPairs entries, ofDocument?_eq_some_iff.mpr ⟨entries, written, rfl⟩⟩

theorem decodesRecord : DecodesRecord ofConfiguration? ["mapping"] accepts :=
  decodesRecord_of_build ofConfiguration?_eq (by decide)
    (fun _ own distinct => exists_ofFields?_iff own distinct) fun own distinct reordered => by
      obtain rfl | ⟨item, rfl⟩ := fields_cases own distinct
      · rw [reordered.nil_eq]
      · rw [List.singleton_perm.mp reordered]

/-- A decoded mapping is the table that its key holds, or else empty. -/
theorem tableReads_of_ofConfiguration? {members : List (RawText × Document)} {mapping : Mapping}
    (decoded : ofConfiguration? (.object members) = some mapping) :
    TableReads (occurrences members "mapping") mapping := by
  rw [ofConfiguration?_eq, Document.fields?] at decoded
  obtain ⟨occurring, taken, read⟩ := Option.bind_eq_some_iff.mp decoded
  have own : ∀ field ∈ occurring, field.1 ∈ ["mapping"] :=
    fun field occurs => ((mem_of_knownMembers? taken field).mp occurs).1
  rw [occurrences_of_knownMembers? taken List.mem_cons_self]
  obtain rfl | ⟨item, rfl⟩ := fields_cases own (nodup_of_knownMembers? taken)
  · cases read
    exact .missing
  · obtain ⟨entries, rfl, rfl⟩ := ofDocument?_eq_some_iff.mp read
    exact .present entries _ (Table.get?_ofPairs entries)

end Mapping

/-! ## Both decoders -/

/-- Claim sets and configurations are decoded from exactly the records whose fields hold what they
accept, which is never null, and every field of the outcome is what the members say. -/
theorem decoders_exact :
    (DecodesRecord UserClaims.ofDocument? (Claim.all.map Claim.field) UserClaims.accepts ∧
      (∀ (claim : Claim) (item : Document), UserClaims.accepts claim.field item ↔
        ∃ value : ClaimValue, value.kind = claim.kind ∧ item = value.toDocument) ∧
      (∀ key, ¬ UserClaims.accepts key .null) ∧
      ∀ members claims, UserClaims.ofDocument? (.object members) = some claims ↔
        (∀ member ∈ members, member.1.isSome) ∧ ∀ claim : Claim,
          UserClaims.FieldReads claim.kind (occurrences members claim.field) (claims.get claim)) ∧
    DecodesRecord Mapping.ofConfiguration? ["mapping"] Mapping.accepts ∧
      (∀ key, ¬ Mapping.accepts key .null) ∧
      ∀ members mapping, Mapping.ofConfiguration? (.object members) = some mapping →
        Mapping.TableReads (occurrences members "mapping") mapping :=
  ⟨⟨UserClaims.decodesRecord, UserClaims.accepts_field_iff, UserClaims.not_accepts_null,
      UserClaims.ofDocument?_object_iff⟩,
    Mapping.decodesRecord, Mapping.not_accepts_null,
    fun _ _ => Mapping.tableReads_of_ofConfiguration?⟩

example :
    Mapping.ofConfiguration? (.array [Mapping.textTable [("Email", "mail"), ("Email", "address")]]) =
      some (.ofPairs [("Email", "address")]) := rfl

end IdentityClaims
