import IdentityClaims.Proofs.Obstacles
import IdentityClaims.Proofs.ResolutionMeaning

/-!
# The log of a resolution

A resolution opens its span and then tells of one claim after the other, up to the first that
fails: the configured path, if there is one, and the reason why the default was taken, if it was.
-/

namespace IdentityClaims

open Json

/-- What is seen of a record. -/
structure LogLine where
  level : Level
  span : Bool
  message : String
  fields : List (String × String)
  deriving DecidableEq, Repr

/-- The line of a record. -/
def Record.line (record : Record) : LogLine :=
  ⟨record.level, record.isSpan, record.message, record.fields⟩

/-- The line of an entry for a claim; without a non-empty entry there is none. -/
def Mapping.configuredLines (mapping : Mapping) (claim : Claim) : List LogLine :=
  match (mapping.get? claim.logicalName).filter (· ≠ "") with
  | none => []
  | some path =>
    [⟨.debug, false, "Using configured claim path",
      [("claim", claim.logicalName), ("path", path)]⟩]

/-- How a path of a payload is read for a claim of a kind: the answer and the lines about it. A
value that is used leaves no line. Each reason to take the default leaves one. -/
inductive Extracts (payload : Value) (path : String) :
    ClaimKind → ClaimValue → List LogLine → Prop where
  | boolean {b : Bool} (reached : payload.Reaches (Path.pieces path) (.boolean b)) :
      Extracts payload path .boolean (.flag b) []
  | null (reached : payload.Reaches (Path.pieces path) .null) :
      Extracts payload path .text (.text "") []
  | string {s : String} (reached : payload.Reaches (Path.pieces path) (.string s)) :
      Extracts payload path .text (.text s) []
  | number {n : Number} (reached : payload.Reaches (Path.pieces path) (.number n)) :
      Extracts payload path .text (.text n.render) []
  | notBoolean {value : Value} (reached : payload.Reaches (Path.pieces path) value)
      (unusable : value.kind ≠ .boolean) :
      Extracts payload path .boolean (.flag false)
        [⟨.trace, false, "Claim is not a boolean, using fallback",
          [("path", path), ("found", value.kind.name)]⟩]
  | notScalar {value : Value} (reached : payload.Reaches (Path.pieces path) value)
      (unusable : value.kind = .boolean ∨ value.kind = .array ∨ value.kind = .object) :
      Extracts payload path .text (.text "")
        [⟨.trace, false, "Claim is not a scalar, using fallback",
          [("path", path), ("found", value.kind.name)]⟩]
  | notTraversable {kind : ClaimKind} {earlier later : List String} {segment : String}
      {value : Value} (split : Path.pieces path = earlier ++ segment :: later)
      (reached : payload.Reaches earlier value) (other : value.kind ≠ .object) :
      Extracts payload path kind (.absent kind)
        [⟨.trace, false, "Claim path is not traversable",
          [("path", path), ("segment", segment), ("found", value.kind.name)]⟩]
  | absent {kind : ClaimKind} {earlier later : List String} {segment : String}
      {members : List (String × Value)} (split : Path.pieces path = earlier ++ segment :: later)
      (reached : payload.Reaches earlier (.object members))
      (missing : Table.get? members segment = none) :
      Extracts payload path kind (.absent kind)
        [⟨.trace, false, "Claim path segment is absent",
          [("path", path), ("segment", segment)]⟩]

/-! ## The lines of one reading -/

namespace Reader

variable {α : Type} {reader : Reader α} {root : Value} {path : String}

theorem log_of_fault {fallback : α} {fault : Fault}
    (failed : reader.get root path fallback = .error fault) : reader.log root path = [] := by
  unfold get at failed
  unfold log
  cases outcome : reader.outcome root path with
  | error _ => rfl
  | ok _ =>
    rw [outcome] at failed
    cases failed

end Reader

theorem Extracts.of_stops {payload : Value} {path : String} {obstacle : Obstacle}
    (stops : payload.Stops (Path.pieces path) obstacle) (kind : ClaimKind) :
    Extracts payload path kind (.absent kind) [(obstacle.record path).line] := by
  cases stops with
  | notTraversable split reached other => exact .notTraversable split reached other
  | absent split reached missing => exact .absent split reached missing

/-- A value that is reached is used, or its kind is told. -/
theorem Extracts.of_reaches {payload value : Value} {path : String}
    (reached : payload.Reaches (Path.pieces path) value) (kind : ClaimKind) :
    (∃ answer, kind.reader.take value = some answer ∧ Extracts payload path kind answer []) ∨
      kind.reader.take value = none ∧
        Extracts payload path kind (.absent kind) [(kind.reader.refusal path value.kind).line] := by
  cases kind with
  | boolean =>
    cases value with
    | boolean b => exact .inl ⟨_, rfl, .boolean reached⟩
    | _ => exact .inr ⟨rfl, .notBoolean reached (by simp [Value.kind])⟩
  | text =>
    cases value with
    | null => exact .inl ⟨_, rfl, .null reached⟩
    | string s => exact .inl ⟨_, rfl, .string reached⟩
    | number n => exact .inl ⟨_, rfl, .number reached⟩
    | _ => exact .inr ⟨rfl, .notScalar reached (by simp [Value.kind])⟩

/-- A path of an object is read in one of these ways. -/
theorem Extracts.of_object {payload : Value} {path : String} (object : payload.kind = .object)
    (proper : ¬ Path.Malformed path) (kind : ClaimKind) :
    ∃ answer, kind.reader.get payload path (.absent kind) = .ok answer ∧
      Extracts payload path kind answer ((kind.reader.log payload path).map Record.line) := by
  unfold Reader.get Reader.log Reader.outcome
  rw [Value.valueAt_of_object object proper]
  cases walked : payload.walk (Path.pieces path) with
  | error obstacle =>
    exact ⟨_, rfl, .of_stops ((Value.walk_eq_error_iff _ _ _).mp walked) kind⟩
  | ok value =>
    have reached := (Value.walk_eq_ok_iff _ _ _).mp walked
    rcases Extracts.of_reaches reached kind with ⟨answer, taken, extracts⟩ | ⟨refused, extracts⟩
    · refine ⟨answer, ?_, ?_⟩
      · simp [Except.map, taken]
      · simpa [Except.map, taken] using extracts
    · refine ⟨.absent kind, ?_, ?_⟩
      · simp [Except.map, refused]
      · simpa [Except.map, refused] using extracts

namespace Resolver

variable {resolver : Resolver} {payload : Value}

theorem lines_of_choiceLog (mapping : Mapping) (claim : Claim) :
    (mapping.choiceLog claim.logicalName).map Record.line = mapping.configuredLines claim := by
  unfold Mapping.choiceLog Mapping.choose Mapping.configuredLines
  cases mapping.get? claim.logicalName with
  | none => simp
  | some path =>
    by_cases empty : path = ""
    · simp [empty, Option.filter]
    · simp only [empty, Option.filter, ne_eq, not_false_eq_true, decide_true, if_false, if_true]
      rfl

/-- How a claim is read and what is told of the reading. Of a claim that fails nothing is. -/
inductive Reads (resolver : Resolver) (payload : Value) (claim : Claim) : List LogLine → Prop where
  | fails {error : IdentityError} (failed : resolver.resolveOne payload claim = .error error) :
      Reads resolver payload claim []
  | gives {answer : ClaimValue} {lines : List LogLine}
      (read : resolver.resolveOne payload claim = .ok answer)
      (extracts : Extracts payload (resolver.mapping.pathOf claim) claim.kind answer lines) :
      Reads resolver payload claim lines

theorem resolveOne_of_readOwn {claim : Claim} {fault : Fault}
    (failed : resolver.readOwn payload claim = .error fault) :
    resolver.resolveOne payload claim = .error fault.error := by
  rw [resolveOne_eq, failed]
  rfl

/-- Only an object has claims to read, and only at proper paths. -/
theorem object_of_readOwn {claim : Claim} {value : ClaimValue}
    (read : resolver.readOwn payload claim = .ok value) :
    payload.kind = .object ∧ ¬ Path.Malformed (resolver.mapping.pathOf claim) := by
  have proper : ¬ Path.Malformed (resolver.mapping.pathOf claim) := by
    intro malformed
    obtain ⟨fault, failed⟩ : ∃ fault, resolver.readOwn payload claim = .error (.malformed fault) :=
      readOwn_of_malformed malformed
    rw [read] at failed
    cases failed
  refine ⟨Decidable.byContradiction fun other => ?_, proper⟩
  rw [readOwn_of_not_object other proper] at read
  cases read

theorem reads_log (resolver : Resolver) (payload : Value) (claim : Claim) :
    resolver.Reads payload claim
      ((claim.kind.reader.log payload (resolver.mapping.pathOf claim)).map Record.line) := by
  have own : resolver.readOwn payload claim =
      claim.kind.reader.get payload (resolver.mapping.pathOf claim) (.absent claim.kind) := by
    rw [readOwn, read, choose_path]
  cases read : resolver.readOwn payload claim with
  | error fault =>
    rw [Reader.log_of_fault (own.symm.trans read)]
    exact .fails (resolveOne_of_readOwn read)
  | ok value =>
    obtain ⟨object, proper⟩ := object_of_readOwn read
    obtain ⟨answer, got, extracts⟩ := Extracts.of_object object proper claim.kind
    refine .gives ?_ extracts
    rw [resolveOne_eq, own, got]
    rfl

/-! ## The lines of a run -/

/-- The claims that a run over some claims reads: all of them when none fails, or those up to and
including the first that does. -/
inductive Attempts (resolver : Resolver) (payload : Value) : List Claim → List Claim → Prop where
  | all {order : List Claim}
      (readable : ∀ claim ∈ order, ∃ value, resolver.resolveOne payload claim = .ok value) :
      Attempts resolver payload order order
  | upTo {earlier : List Claim} {claim : Claim} {error : IdentityError}
      (readable : ∀ other ∈ earlier, ∃ value, resolver.resolveOne payload other = .ok value)
      (failed : resolver.resolveOne payload claim = .error error) (later : List Claim) :
      Attempts resolver payload (earlier ++ claim :: later) (earlier ++ [claim])

/-- A claim that can be read is read before all others. -/
theorem Attempts.cons {order attempted : List Claim} {claim : Claim} {value : ClaimValue}
    (read : resolver.resolveOne payload claim = .ok value)
    (attempts : resolver.Attempts payload order attempted) :
    resolver.Attempts payload (claim :: order) (claim :: attempted) := by
  cases attempts with
  | all readable => exact .all (List.forall_mem_cons.mpr ⟨⟨value, read⟩, readable⟩)
  | upTo readable failed later =>
    exact .upTo (List.forall_mem_cons.mpr ⟨⟨value, read⟩, readable⟩) failed later

/-- A run tells of the claims that it reads, in their order. -/
theorem resolveEachLog_eq (resolver : Resolver) (payload : Value) (order : List Claim) :
    ∃ attempted, resolver.Attempts payload order attempted ∧
      resolver.resolveEachLog payload order =
        attempted.flatMap fun claim => resolver.readLog claim.kind.reader payload claim := by
  induction order with
  | nil => exact ⟨[], .all (by simp), rfl⟩
  | cons claim rest ih =>
    cases read : resolver.readOwn payload claim with
    | error fault =>
      have first : resolver.Attempts payload ([] ++ claim :: rest) ([] ++ [claim]) :=
        .upTo (List.forall_mem_nil _) (resolveOne_of_readOwn read) rest
      refine ⟨[claim], first, ?_⟩
      simp only [resolveEachLog, read, List.flatMap_singleton, List.append_nil]
    | ok value =>
      obtain ⟨attempted, attempts, told⟩ := ih
      refine ⟨claim :: attempted, attempts.cons ((resolveOne_eq_ok_iff ..).mpr read), ?_⟩
      simp only [resolveEachLog, read, told, List.flatMap_cons]

/-- The exact log of a resolution, for every mapping and every payload: the span with the number
of all entries, and then, for each claim that is read, its configured path, if there is one, and
what is told of the reading. -/
theorem resolveLog_exact (mapping : Mapping) (payload : Value) :
    ∃ (attempted : List Claim) (lines : Claim → List LogLine),
      Attempts ⟨mapping⟩ payload Claim.all attempted ∧
      (∀ claim, Reads ⟨mapping⟩ payload claim (lines claim)) ∧
      (resolveLog ⟨mapping⟩ payload).map Record.line =
        ⟨.info, true, "resolve", [("overrides", Record.count mapping.entries.length)]⟩ ::
          attempted.flatMap fun claim => mapping.configuredLines claim ++ lines claim := by
  obtain ⟨attempted, attempts, told⟩ := resolveEachLog_eq ⟨mapping⟩ payload Claim.all
  refine ⟨attempted, _, attempts, reads_log ⟨mapping⟩ payload, ?_⟩
  rw [resolveLog, told, List.map_cons, List.map_flatMap]
  congr 2
  funext claim
  rw [readLog, List.map_append, lines_of_choiceLog, choose_path]

end Resolver

end IdentityClaims
