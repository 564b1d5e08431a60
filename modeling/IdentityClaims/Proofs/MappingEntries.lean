import IdentityClaims.Proofs.ResolutionMeaning

/-!
# What of a mapping matters

A resolver (`path_for`) sees of its mapping the non-empty entries under the names of the claims, and
each of them only when it reads that claim. An empty entry is as good as none, and entries under
other names are never looked up.
-/

namespace IdentityClaims

open Json

theorem Claim.ofName?_logicalName (claim : Claim) : ofName? claim.logicalName = some claim := by
  cases claim <;> decide

/-- Names tell claims apart. -/
theorem Claim.logicalName_injective {a b : Claim} (same : a.logicalName = b.logicalName) :
    a = b := by
  have found := a.ofName?_logicalName
  rw [same, b.ofName?_logicalName] at found
  exact (Option.some.inj found).symm

namespace Mapping

variable {a b mapping : Mapping} {name path : String}

/-- Two mappings with the same non-empty entries under the names of the claims. -/
def AgreeOnClaims (a b : Mapping) : Prop :=
  ∀ (claim : Claim) (path : String), path ≠ "" →
    (a.get? claim.logicalName = some path ↔ b.get? claim.logicalName = some path)

/-- Two mappings with the same entries but for the one under the name of a claim. -/
def DifferAt (claim : Claim) (a b : Mapping) : Prop :=
  ∀ name, name ≠ claim.logicalName → a.get? name = b.get? name

theorem choose_of_configured (entry : mapping.get? name = some path) (nonempty : path ≠ "") :
    mapping.choose name = ⟨path, true⟩ := by
  unfold choose
  rw [entry]
  exact if_neg nonempty

theorem choose_of_unconfigured
    (unconfigured : ∀ path, mapping.get? name = some path → path = "") :
    mapping.choose name = ⟨Text.snakeCase name, false⟩ := by
  unfold choose
  cases entry : mapping.get? name with
  | none => rfl
  | some path => exact if_pos (unconfigured path entry)

/-- The same path is chosen, and both times it was configured or both times it was not. -/
theorem AgreeOnClaims.choose (agree : a.AgreeOnClaims b) (claim : Claim) :
    a.choose claim.logicalName = b.choose claim.logicalName := by
  by_cases configured : ∃ path, path ≠ "" ∧ a.get? claim.logicalName = some path
  · obtain ⟨path, nonempty, entry⟩ := configured
    rw [choose_of_configured entry nonempty,
      choose_of_configured ((agree claim path nonempty).mp entry) nonempty]
  · -- A path configured on one side would be configured on the other.
    have first : ∀ path, a.get? claim.logicalName = some path → path = "" :=
      fun path entry => Decidable.byContradiction fun nonempty =>
        configured ⟨path, nonempty, entry⟩
    have second : ∀ path, b.get? claim.logicalName = some path → path = "" :=
      fun path entry => Decidable.byContradiction fun nonempty =>
        configured ⟨path, nonempty, (agree claim path nonempty).mpr entry⟩
    rw [choose_of_unconfigured first, choose_of_unconfigured second]

end Mapping

namespace Resolver

theorem read_congr {α : Type} {a b : Resolver} {claim : Claim}
    (same : a.choose claim = b.choose claim) (reader : Reader α) (payload : Value)
    (fallback : α) : a.read reader payload claim fallback = b.read reader payload claim fallback := by
  unfold read
  rw [same]

/-- The field of a claim in a resolution depends on the path of that claim alone. -/
theorem field_of_resolve {a b : Resolver} {payload : Value} {first second : UserClaims}
    (resolvedFirst : a.resolve payload = .ok first)
    (resolvedSecond : b.resolve payload = .ok second) {claim : Claim}
    (same : a.choose claim = b.choose claim) : first.get claim = second.get claim := by
  have one := (resolve_eq_ok_iff a payload first).mp resolvedFirst claim
  have two := (resolve_eq_ok_iff b payload second).mp resolvedSecond claim
  rw [readOwn, read_congr same, ← readOwn, two] at one
  exact (Except.ok.inj one).symm

/-- A mapping matters through its non-empty entries for claims, each for its own claim. -/
theorem answers_of_entries (a b : Mapping) :
    (a.AgreeOnClaims b →
      (∀ claim, choose ⟨a⟩ claim = choose ⟨b⟩ claim) ∧
      ∀ payload,
        (∀ claim fallback, extract ⟨a⟩ Reader.text payload claim fallback =
          extract ⟨b⟩ Reader.text payload claim fallback) ∧
        (∀ claim fallback, extract ⟨a⟩ Reader.boolean payload claim fallback =
          extract ⟨b⟩ Reader.boolean payload claim fallback) ∧
        resolve ⟨a⟩ payload = resolve ⟨b⟩ payload) ∧
    (∀ claim, Mapping.DifferAt claim a b → ∀ payload first second,
      resolve ⟨a⟩ payload = .ok first → resolve ⟨b⟩ payload = .ok second →
        ∀ other, other ≠ claim → first.get other = second.get other) := by
  refine ⟨fun agree => ?_, fun claim differ payload first second resolvedFirst resolvedSecond
    other different => ?_⟩
  · have chosen : ∀ claim, choose ⟨a⟩ claim = choose ⟨b⟩ claim := agree.choose
    refine ⟨chosen, fun payload => ⟨fun claim fallback => ?_, fun claim fallback => ?_, ?_⟩⟩
    · rw [extract, read_congr (chosen claim), extract]
    · rw [extract, read_congr (chosen claim), extract]
    · exact resolve_congr fun claim => read_congr (chosen claim) _ _ _
  · apply field_of_resolve resolvedFirst resolvedSecond
    have entry : a.get? other.logicalName = b.get? other.logicalName :=
      differ other.logicalName fun same => different (Claim.logicalName_injective same)
    unfold choose Mapping.choose
    rw [entry]

/-! The statement at a mapping with an entry for one claim, beside entries that do not matter and
beside another entry for that claim. -/

/-- A mapping with a path for the address alone. -/
def emailMapping (path : String) : Mapping :=
  .ofPairs [("Email", path)]

/-- That mapping with an empty entry and a foreign one. -/
def paddedMapping (path : String) : Mapping :=
  .ofPairs [("Email", path), ("Name", ""), ("email", "..")]

/-- A payload with an address at one of the paths. -/
def addressPayload : Value :=
  .object [("name", .string "Ada"), ("mail", .string "a@b")]

theorem paddedMapping_agrees :
    (paddedMapping "contact.email").AgreeOnClaims (emailMapping "contact.email") := by
  have alike : ∀ claim ∈ Claim.all,
      ((paddedMapping "contact.email").get? claim.logicalName).filter (· ≠ "") =
        ((emailMapping "contact.email").get? claim.logicalName).filter (· ≠ "") := by decide
  intro claim path nonempty
  have same := congrArg (· = some path) (alike claim claim.mem_all)
  simpa [Option.filter_eq_some_iff, nonempty] using same

theorem emailMapping_get?_of_ne (path : String) {name : String}
    (other : name ≠ Claim.email.logicalName) : (emailMapping path).get? name = none :=
  if_neg other

theorem emailMapping_differs (path moved : String) :
    Mapping.DifferAt .email (emailMapping path) (emailMapping moved) := by
  intro name other
  rw [emailMapping_get?_of_ne path other, emailMapping_get?_of_ne moved other]

theorem emailMapping_proper {path : String} (proper : ¬ Path.Malformed path) (claim : Claim) :
    ¬ Path.Malformed ((emailMapping path).pathOf claim) := by
  by_cases email : claim = .email
  · have nonempty : path ≠ "" := fun empty => proper ((Path.malformed_iff path).mpr (.inl empty))
    have entry : (emailMapping path).get? Claim.email.logicalName = some path := rfl
    rw [email, ← choose_path ⟨emailMapping path⟩, choose, Mapping.choose_of_configured entry nonempty]
    exact proper
  · have absent := emailMapping_get?_of_ne path
      fun same => email (Claim.logicalName_injective same)
    rw [Mapping.pathOf_of_unconfigured (by simp [absent])]
    exact Path.not_malformed_of_isSegment claim.isSegment_field

theorem answers_of_entries_email :
    (paddedMapping "contact.email").AgreeOnClaims (emailMapping "contact.email") ∧
      Mapping.DifferAt .email (emailMapping "contact.email") (emailMapping "mail") ∧
      choose ⟨paddedMapping "contact.email"⟩ .name = choose ⟨emailMapping "contact.email"⟩ .name ∧
      resolve ⟨paddedMapping "contact.email"⟩ (.string "no object") =
        resolve ⟨emailMapping "contact.email"⟩ (.string "no object") ∧
      ∃ first second,
        resolve ⟨emailMapping "contact.email"⟩ addressPayload = .ok first ∧
        resolve ⟨emailMapping "mail"⟩ addressPayload = .ok second ∧
        first.get .name = second.get .name := by
  obtain ⟨alike, -⟩ :=
    answers_of_entries (paddedMapping "contact.email") (emailMapping "contact.email")
  obtain ⟨chosen, answers⟩ := alike paddedMapping_agrees
  obtain ⟨-, apart⟩ := answers_of_entries (emailMapping "contact.email") (emailMapping "mail")
  have differ := emailMapping_differs "contact.email" "mail"
  have before : ∀ claim, ¬ Path.Malformed ((emailMapping "contact.email").pathOf claim) :=
    emailMapping_proper (by decide)
  have after : ∀ claim, ¬ Path.Malformed ((emailMapping "mail").pathOf claim) :=
    emailMapping_proper (by decide)
  have object : addressPayload.kind = .object := rfl
  obtain ⟨first, resolvedFirst, -⟩ := resolve_of_proper object before
  obtain ⟨second, resolvedSecond, -⟩ := resolve_of_proper object after
  exact ⟨paddedMapping_agrees, differ, chosen .name, (answers _).2.2, first, second,
    resolvedFirst, resolvedSecond,
    apart .email differ _ _ _ resolvedFirst resolvedSecond .name (by decide)⟩

end Resolver

end IdentityClaims
