import IdentityClaims.Claim.Decoding
import IdentityClaims.Proofs.Resolution

/-!
# Resolution by default and decoding

A document can be read twice: as a payload, in which a repeated key keeps its last value, and as
a written claim set, in which a known key must not repeat. Under the known keys both see the same
documents, so a resolver that has no path configured finds the written claim set.
-/

namespace IdentityClaims

open Json

/-! ## Known members -/

/-- What the first member adds to the known ones. -/
theorem knownMembers?_cons {known : List String} {raw : RawText} {item : Document}
    {rest : List (RawText × Document)} {occurring : Table Document}
    (taken : knownMembers? known ((raw, item) :: rest) = some occurring) :
    ∃ key others, raw = some key ∧ knownMembers? known rest = some others ∧
      (key ∉ known ∧ occurring = others ∨
        key ∈ known ∧ key ∉ Table.keys others ∧ occurring = (key, item) :: others) := by
  cases raw with
  | none => cases taken
  | some key =>
    rw [knownMembers?] at taken
    obtain ⟨others, later, taken⟩ := Option.bind_eq_some_iff.mp taken
    refine ⟨key, others, rfl, later, ?_⟩
    by_cases own : key ∈ known
    · rw [if_neg (not_not_intro own)] at taken
      by_cases again : key ∈ others.map Prod.fst
      · rw [if_pos again] at taken
        cases taken
      · rw [if_neg again] at taken
        exact .inr ⟨own, again, (Option.some.inj taken).symm⟩
    · rw [if_pos own] at taken
      exact .inl ⟨own, (Option.some.inj taken).symm⟩

theorem nodup_of_knownMembers? {known : List String} {members : List (RawText × Document)}
    {occurring : Table Document} (taken : knownMembers? known members = some occurring) :
    (Table.keys occurring).Nodup := by
  induction members generalizing occurring with
  | nil =>
    cases taken
    exact List.nodup_nil
  | cons member rest ih =>
    obtain ⟨key, others, -, later, ⟨-, rfl⟩ | ⟨-, fresh, rfl⟩⟩ := knownMembers?_cons taken
    · exact ih later
    · exact List.nodup_cons.mpr ⟨fresh, ih later⟩

/-- The last value under a known key is the value of its one document. -/
theorem get?_of_knownMembers? {known : List String} {members : List (RawText × Document)}
    {occurring : Table Document} {entries : Table Value}
    (taken : knownMembers? known members = some occurring)
    (read : Document.entries? members = some entries) {key : String} (member : key ∈ known) :
    Table.get? entries.reverse key = (Table.get? occurring key).bind Document.value? := by
  induction members generalizing occurring entries with
  | nil =>
    cases taken
    cases read
    rfl
  | cons first rest ih =>
    obtain ⟨raw, item⟩ := first
    obtain ⟨name, others, rfl, later, step⟩ := knownMembers?_cons taken
    simp only [Document.entries?, Option.bind_eq_bind, Option.bind_some,
      Option.bind_eq_some_iff] at read
    obtain ⟨value, meaning, following, readings, whole⟩ := read
    obtain rfl := Option.some.inj whole
    have tail := ih later readings
    rw [List.reverse_cons, Table.get?_append, tail, Table.get?_cons]
    by_cases own : key = name
    · subst own
      rcases step with ⟨unknown, -⟩ | ⟨-, fresh, rfl⟩
      · exact absurd member unknown
      · rw [(Table.get?_eq_none_iff others key).mpr fresh, Table.get?_cons, if_pos rfl, if_pos rfl,
          Option.bind_some, meaning]
        rfl
    · have unseen : Table.get? occurring key = Table.get? others key := by
        rcases step with ⟨-, rfl⟩ | ⟨-, -, rfl⟩
        · rfl
        · rw [Table.get?_cons, if_neg own]
      rw [if_neg own, unseen, Table.get?, Option.or_none]

/-! ## Decoded fields -/

/-- What a document is decoded as, the reader of the kind takes for its value. -/
theorem Json.Document.take_of_claimValue? {kind : ClaimKind} {item : Document}
    {value : ClaimValue} (decoded : item.claimValue? kind = some value) :
    item.value?.bind kind.reader.take = some value := by
  cases kind with
  | boolean =>
    cases item with
    | boolean flag =>
      cases decoded
      rfl
    | _ => cases decoded
  | text =>
    cases item with
    | text raw =>
      cases raw with
      | none => cases decoded
      | some text =>
        cases decoded
        rfl
    | _ => cases decoded

namespace UserClaims

/-- A decoded field is stored in the claim of that field and in no other. -/
theorem get_of_decodeField? {claims next : UserClaims} {name : String} {item : Document}
    (decoded : decodeField? claims (name, item) = some next) :
    ∃ claim value, claim.field = name ∧ item.claimValue? claim.kind = some value ∧
      ∀ other, next.get other = if other = claim then value else claims.get other := by
  unfold decodeField? at decoded
  obtain ⟨claim, named, decoded⟩ := Option.bind_eq_some_iff.mp decoded
  obtain ⟨value, taken, stored⟩ := Option.bind_eq_some_iff.mp decoded
  exact ⟨claim, value, (Claim.ofField?_eq_some_iff _ _).mp named, taken, get_of_store? stored⟩

/-- Decoded fields are the documents under their names; every other field is kept. -/
theorem get_of_decodeFields {fields : Table Document} {start claims : UserClaims}
    (decoded : fields.foldlM decodeField? start = some claims)
    (distinct : (Table.keys fields).Nodup) (claim : Claim) :
    match Table.get? fields claim.field with
    | none => claims.get claim = start.get claim
    | some item => item.claimValue? claim.kind = some (claims.get claim) := by
  induction fields generalizing start with
  | nil =>
    cases decoded
    rfl
  | cons field rest ih =>
    obtain ⟨name, item⟩ := field
    obtain ⟨fresh, others⟩ := List.nodup_cons.mp distinct
    rw [List.foldlM_cons] at decoded
    obtain ⟨next, first, rest_decoded⟩ := Option.bind_eq_some_iff.mp decoded
    obtain ⟨owner, value, rfl, taken, stored⟩ := get_of_decodeField? first
    have later := ih rest_decoded others
    rw [Table.get?_cons]
    by_cases own : claim = owner
    · -- No later field has this name, so what is stored here is kept.
      subst own
      rw [(Table.get?_eq_none_iff rest claim.field).mpr fresh] at later
      rw [if_pos rfl]
      simp only at later ⊢
      rw [later, stored, if_pos rfl, taken]
    · have apart : claim.field ≠ owner.field := by
        intro same
        have found := (Claim.ofField?_eq_some_iff owner.field claim).mpr same
        rw [(Claim.ofField?_eq_some_iff owner.field owner).mpr rfl] at found
        exact own (Option.some.inj found).symm
      rw [if_neg apart]
      rw [stored, if_neg own] at later
      exact later

end UserClaims

/-! ## Both readings -/

theorem Json.Value.entries_of_ofDocument? {members : List (RawText × Document)} {payload : Value}
    (read : Value.ofDocument? (.object members) = some payload) :
    ∃ entries, Document.entries? members = some entries ∧
      payload = .object (Table.ofPairs entries) := by
  rw [Value.ofDocument?, Option.ite_none_right_eq_some, Document.value?] at read
  obtain ⟨entries, readings, whole⟩ := Option.map_eq_some_iff.mp read.2
  exact ⟨entries, readings, whole.symm⟩

/-- Without a path of its own every claim is resolved to what is decoded from its field. -/
theorem Resolver.resolve_of_decoded (mapping : Mapping) (members : List (RawText × Document))
    {payload : Value} {claims : UserClaims}
    (unconfigured : ∀ claim : Claim, ∀ path,
      mapping.get? claim.logicalName = some path → path = "")
    (read : Value.ofDocument? (.object members) = some payload)
    (decoded : UserClaims.ofDocument? (.object members) = some claims) :
    Resolver.resolve ⟨mapping⟩ payload = .ok claims := by
  obtain ⟨entries, readings, rfl⟩ := Value.entries_of_ofDocument? read
  obtain ⟨occurring, taken, fields⟩ := Option.bind_eq_some_iff.mp decoded
  rw [resolve_eq_ok_iff]
  intro claim
  have path : mapping.pathOf claim = claim.field :=
    Mapping.pathOf_of_unconfigured (unconfigured claim)
  have proper : ¬ Path.Malformed (mapping.pathOf claim) := by
    rw [path]
    exact Path.not_malformed_of_isSegment claim.isSegment_field
  have known : claim.field ∈ Claim.all.map Claim.field := List.mem_map_of_mem claim.mem_all
  have seen := get?_of_knownMembers? taken readings known
  have field := UserClaims.get_of_decodeFields fields (nodup_of_knownMembers? taken) claim
  rw [readOwn_of_object rfl proper, path, Path.pieces_of_isSegment claim.isSegment_field,
    Value.find?_singleton, Value.members, Table.get?_ofPairs, seen]
  cases occurs : Table.get? occurring claim.field with
  | none =>
    rw [occurs] at field
    rw [field, UserClaims.get_default]
    rfl
  | some item =>
    rw [occurs] at field
    rw [Option.bind_some, Document.take_of_claimValue? field, Option.getD_some]

/-- Members of which one is unknown and repeats. -/
def profileMembers : List (RawText × Document) :=
  [(some "extra", .array [.null]), (some "zone_info", .text (some "UTC")),
    (some "email_verified", .boolean true), (some "extra", .text (some "again"))]

/-- An empty entry and a foreign one, which configure no path. -/
def profileMapping : Mapping :=
  .ofPairs [("Name", ""), ("Nobody", "extra")]

theorem profileMapping_unconfigured (claim : Claim) (path : String)
    (entry : profileMapping.get? claim.logicalName = some path) : path = "" := by
  have plain : ∀ claim ∈ Claim.all,
      (profileMapping.get? claim.logicalName).all (· = "") := by decide
  simpa [entry] using plain claim claim.mem_all

theorem Resolver.resolve_of_decoded_profile :
    (∀ claim : Claim, ∀ path, profileMapping.get? claim.logicalName = some path → path = "") ∧
      Value.ofDocument? (.object profileMembers) =
        some (.object [("extra", .string "again"), ("zone_info", .string "UTC"),
          ("email_verified", .boolean true)]) ∧
      UserClaims.ofDocument? (.object profileMembers) =
        some { zoneInfo := "UTC", emailVerified := true } ∧
      Resolver.resolve ⟨profileMapping⟩
          (.object [("extra", .string "again"), ("zone_info", .string "UTC"),
            ("email_verified", .boolean true)]) =
        .ok { zoneInfo := "UTC", emailVerified := true } :=
  ⟨profileMapping_unconfigured, rfl, rfl,
    resolve_of_decoded profileMapping profileMembers profileMapping_unconfigured rfl rfl⟩

end IdentityClaims
