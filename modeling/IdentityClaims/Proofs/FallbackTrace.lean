import IdentityClaims.Proofs.ReaderMeaning
import IdentityClaims.Proofs.ResolutionLog

/-!
# The record of a fallback

A reading (`lookup` and the two functions on it) leaves a record exactly when its answer is the
fallback, that is when runs with different fallbacks answer differently. The record names the first
segment that leads nowhere and the kind of what was reached before it, or the kind of a value at the
end that cannot be used.
-/

namespace IdentityClaims

open Json

/-! ## Where a walk stops -/

namespace Json.Value

variable {root value : Value} {segments : List String} {segment : String}

/-- Some first segments reach a value, and with the next segment nothing is reached any more. -/
def StopsBefore (root : Value) (segments : List String) (segment : String) (value : Value) : Prop :=
  ∃ earlier later, segments = earlier ++ segment :: later ∧ root.Reaches earlier value ∧
    ∀ next, ¬ root.Reaches (earlier ++ [segment]) next

/-- What keeps a segment from being looked up below a value. -/
def obstacleAt (value : Value) (segment : String) : Obstacle :=
  if value.kind = .object then .absent segment else .notTraversable segment value.kind

/-- Nothing is reached with one more segment exactly when the value has no member for it. -/
theorem reaches_concat_iff {earlier : List String} (reached : root.Reaches earlier value)
    (segment : String) (next : Value) :
    root.Reaches (earlier ++ [segment]) next ↔ Table.get? value.members segment = some next := by
  rw [← find?_eq_some_iff, find?_append, (find?_eq_some_iff root value earlier).mpr reached,
    Option.bind_some, find?_singleton]

theorem unreached_concat_iff {earlier : List String} (reached : root.Reaches earlier value)
    (segment : String) :
    (∀ next, ¬ root.Reaches (earlier ++ [segment]) next) ↔
      Table.get? value.members segment = none := by
  rw [Option.eq_none_iff_forall_ne_some]
  exact forall_congr' fun next => not_congr (reaches_concat_iff reached segment next)

/-- A walk that stops before a segment meets the obstacle of the value reached there. -/
theorem StopsBefore.stops (stops : root.StopsBefore segments segment value) :
    root.Stops segments (value.obstacleAt segment) := by
  obtain ⟨earlier, later, split, reached, unreached⟩ := stops
  have missing := (unreached_concat_iff reached segment).mp unreached
  unfold obstacleAt
  by_cases object : value.kind = .object
  · rw [if_pos object]
    cases value with
    | object members => exact .absent split reached missing
    | _ => cases object
  · rw [if_neg object]
    exact .notTraversable split reached object

/-- Where nothing is reached at the end, the walk stops before one of the segments. -/
theorem exists_stopsBefore (unreached : ∀ value, ¬ root.Reaches segments value) :
    ∃ segment value, root.StopsBefore segments segment value := by
  cases walked : root.walk segments with
  | ok value => exact absurd ((walk_eq_ok_iff root value segments).mp walked) (unreached value)
  | error obstacle =>
    cases (walk_eq_error_iff root segments obstacle).mp walked with
    | notTraversable split reached other =>
      refine ⟨_, _, _, _, split, reached, (unreached_concat_iff reached _).mpr ?_⟩
      rw [← find?_singleton, find?_of_not_object other (List.cons_ne_nil _ _)]
    | absent split reached missing =>
      exact ⟨_, _, _, _, split, reached, (unreached_concat_iff reached _).mpr missing⟩

end Json.Value

/-- What is told of a walk that stops before a segment at a value. -/
def Json.Value.stopLine (value : Value) (path segment : String) : LogLine :=
  if value.kind = .object then
    ⟨.trace, false, "Claim path segment is absent", [("path", path), ("segment", segment)]⟩
  else
    ⟨.trace, false, "Claim path is not traversable",
      [("path", path), ("segment", segment), ("found", value.kind.name)]⟩

theorem Json.Value.line_obstacleAt (value : Value) (path segment : String) :
    ((value.obstacleAt segment).record path).line = value.stopLine path segment := by
  unfold obstacleAt stopLine
  split <;> rfl

theorem Obstacle.level_record (obstacle : Obstacle) (path : String) :
    (obstacle.record path).line.level = .trace := by
  cases obstacle <;> rfl

namespace Reader

variable {α : Type} {reader : Reader α} {root : Value} {path : String}

/-- The lines that a reading leaves. They are those of every run, whatever its fallback is. -/
def lines (reader : Reader α) (root : Value) (path : String) : List LogLine :=
  (reader.log root path).map Record.line

/-! ## One reading -/

theorem run_of_used {answer : α} (used : reader.outcome root path = .ok (.ok answer)) :
    (∀ fallback, reader.extract root path fallback = .ok answer) ∧
      reader.lines root path = [] := by
  refine ⟨fun fallback => ?_, ?_⟩
  · rw [extract, get, used]
    rfl
  · rw [lines, log, used]
    rfl

theorem run_of_refused {record : Record}
    (refused : reader.outcome root path = .ok (.error record)) :
    (∀ fallback, reader.extract root path fallback = .ok fallback) ∧
      reader.lines root path = [record.line] := by
  refine ⟨fun fallback => ?_, ?_⟩
  · rw [extract, get, refused]
    rfl
  · rw [lines, log, refused]
    rfl

theorem outcome_of_stopsBefore {segment : String} {value : Value} (reader : Reader α)
    (object : root.kind = .object) (proper : ¬ Path.Malformed path)
    (stops : root.StopsBefore (Path.pieces path) segment value) :
    reader.outcome root path = .ok (.error ((value.obstacleAt segment).record path)) := by
  rw [outcome, Value.valueAt_of_object object proper,
    (Value.walk_eq_error_iff _ _ _).mpr stops.stops]
  rfl

theorem outcome_of_reaches {value : Value} (reader : Reader α) (proper : ¬ Path.Malformed path)
    (reached : root.Reaches (Path.pieces path) value) :
    reader.outcome root path =
      .ok ((reader.take value).elim (.error (reader.refusal path value.kind)) .ok) := by
  have object : root.kind = .object := reached.kind_of_ne_nil (Path.pieces_ne_nil path)
  rw [outcome, Value.valueAt_of_object object proper, (Value.walk_eq_ok_iff _ _ _).mpr reached]
  cases taken : reader.take value <;> simp [Except.map, taken]

/-! ## The log and the answers -/

/-- How the log of a reading is tied to its answers: what is usable at the end of the path is
told by its kind, and `message` is said of what is not. -/
structure TracesFallback (reader : Reader α) (usable : Kind → Prop) (message : String)
    (root : Value) (path : String) : Prop where
  /-- A reading that fails leaves nothing. -/
  failed : ∀ fallback error, reader.extract root path fallback = .error error →
    reader.lines root path = []
  /-- One TRACE record is left exactly when two runs with different fallbacks answer differently. -/
  traced_iff : ∀ first second, first ≠ second →
    ((∃ line, reader.lines root path = [line] ∧ line.level = .trace) ↔
      reader.extract root path first ≠ reader.extract root path second)
  /-- No record is left exactly when they answer alike. -/
  silent_iff : ∀ first second, first ≠ second →
    (reader.lines root path = [] ↔
      reader.extract root path first = reader.extract root path second)
  /-- A walk that reaches nothing stops before a segment. -/
  stops : (∀ value, ¬ root.Reaches (Path.pieces path) value) →
    ∃ segment value, root.StopsBefore (Path.pieces path) segment value
  /-- Where it stops, that segment is named and the value it would be looked up in. -/
  stopped : root.kind = .object → ¬ Path.Malformed path → ∀ segment value,
    root.StopsBefore (Path.pieces path) segment value →
      reader.lines root path = [value.stopLine path segment]
  /-- Of a value that is reached and is of no use the kind is named. -/
  reached : ¬ Path.Malformed path → ∀ value, root.Reaches (Path.pieces path) value →
    (usable value.kind → reader.lines root path = []) ∧
    (¬ usable value.kind → reader.lines root path =
      [⟨.trace, false, message, [("path", path), ("found", value.kind.name)]⟩])

variable {usable : Kind → Prop} {message : String}

/-- Every record of a reading is a TRACE record if that of an unusable value is one. -/
theorem level_of_refused {record : Record}
    (tells : ∀ kind, (reader.refusal path kind).line =
      ⟨.trace, false, message, [("path", path), ("found", kind.name)]⟩)
    (refused : reader.outcome root path = .ok (.error record)) : record.line.level = .trace := by
  rw [outcome] at refused
  cases walk : root.valueAt path with
  | error fault =>
    rw [walk] at refused
    cases refused
  | ok walked =>
    rw [walk] at refused
    cases walked with
    | error obstacle =>
      cases refused
      exact obstacle.level_record path
    | ok value =>
      cases taken : reader.take value with
      | some answer => simp [Except.map, taken] at refused
      | none =>
        simp only [Except.map, taken, Except.ok.injEq, Except.error.injEq] at refused
        rw [← refused, tells]

/-- A run has one answer for all fallbacks and leaves nothing, or answers with its fallback and
leaves one TRACE record. -/
theorem run_cases (root : Value) (tells : ∀ kind, (reader.refusal path kind).line =
      ⟨.trace, false, message, [("path", path), ("found", kind.name)]⟩) :
    (∃ answer, (∀ fallback, reader.extract root path fallback = answer) ∧
      reader.lines root path = []) ∨
    (∃ line, (∀ fallback, reader.extract root path fallback = .ok fallback) ∧
      reader.lines root path = [line] ∧ line.level = .trace) := by
  cases outcome : reader.outcome root path with
  | error fault =>
    refine .inl ⟨.error fault.error, fun fallback => ?_, ?_⟩
    · rw [extract, get, outcome]
      rfl
    · rw [lines, log, outcome]
      rfl
  | ok run =>
    cases run with
    | ok answer => exact .inl ⟨_, run_of_used outcome⟩
    | error record =>
      obtain ⟨answers, told⟩ := run_of_refused outcome
      exact .inr ⟨_, answers, told, level_of_refused tells outcome⟩

/-- The log is tied to the answers as soon as the reader takes the usable values and no others. -/
theorem tracesFallback (takes : ∀ value, (reader.take value).isSome ↔ usable value.kind)
    (tells : ∀ kind, (reader.refusal path kind).line =
      ⟨.trace, false, message, [("path", path), ("found", kind.name)]⟩) :
    reader.TracesFallback usable message root path where
  failed fallback error failed := by
    rcases run_cases root tells with ⟨answer, -, silent⟩ | ⟨line, answers, -⟩
    · exact silent
    · rw [answers] at failed
      cases failed
  traced_iff first second different := by
    rcases run_cases root tells with ⟨answer, answers, silent⟩ | ⟨line, answers, told, trace⟩
    · simp [answers, silent]
    · simp [answers, told, trace, different]
  silent_iff first second different := by
    rcases run_cases root tells with ⟨answer, answers, silent⟩ | ⟨line, answers, told, -⟩
    · simp [answers, silent]
    · simp [answers, told, different]
  stops unreached := Value.exists_stopsBefore unreached
  stopped object proper segment value stops := by
    rw [(run_of_refused (outcome_of_stopsBefore reader object proper stops)).2,
      Value.line_obstacleAt]
  reached proper value reached := by
    have outcome := outcome_of_reaches reader proper reached
    cases taken : reader.take value with
    | some answer =>
      have use : usable value.kind := (takes value).mp (by rw [taken]; rfl)
      rw [taken] at outcome
      exact ⟨fun _ => (run_of_used outcome).2, fun unusable => absurd use unusable⟩
    | none =>
      have unusable : ¬ usable value.kind := fun use => by
        simpa [taken] using (takes value).mpr use
      rw [taken] at outcome
      refine ⟨fun use => absurd use unusable, fun _ => ?_⟩
      rw [(run_of_refused outcome).2, tells]

/-- A record is left exactly when the fallback decides the answer, and it names the reason, for
both readers, every payload and every path. -/
theorem trace_exact (root : Value) (path : String) :
    Reader.boolean.TracesFallback (· = .boolean) "Claim is not a boolean, using fallback"
        root path ∧
      Reader.text.TracesFallback (fun kind => kind = .null ∨ kind = .string ∨ kind = .number)
        "Claim is not a scalar, using fallback" root path := by
  refine ⟨tracesFallback (fun value => ?_) fun _ => rfl,
    tracesFallback (fun value => ?_) fun _ => rfl⟩
  · cases value <;> simp [boolean, Value.kind]
  · cases value <;> simp [text, Value.kind]

/-! The statement at a payload with a null and a list, at whose paths the readers differ. -/

def listPayload : Value :=
  .object [("user", .object [("name", .null), ("tags", .array [])])]

theorem trace_exact_list :
    listPayload.StopsBefore (Path.pieces "user.tags.first") "first" (.array []) ∧
      Reader.text.lines listPayload "user.tags.first" =
        [⟨.trace, false, "Claim path is not traversable",
          [("path", "user.tags.first"), ("segment", "first"), ("found", "array")]⟩] ∧
      Reader.text.extract listPayload "user.tags.first" "a" ≠
        Reader.text.extract listPayload "user.tags.first" "b" ∧
      listPayload.Reaches (Path.pieces "user.name") .null ∧
      Reader.text.lines listPayload "user.name" = [] ∧
      Reader.text.extract listPayload "user.name" "a" =
        Reader.text.extract listPayload "user.name" "b" ∧
      Reader.boolean.lines listPayload "user.name" =
        [⟨.trace, false, "Claim is not a boolean, using fallback",
          [("path", "user.name"), ("found", "null")]⟩] := by
  obtain ⟨-, text⟩ := trace_exact listPayload "user.tags.first"
  obtain ⟨booleanName, textName⟩ := trace_exact listPayload "user.name"
  have stops : listPayload.StopsBefore (Path.pieces "user.tags.first") "first" (.array []) := by
    refine ⟨["user", "tags"], [], rfl, .member rfl (.member rfl (.here _)), fun next beyond => ?_⟩
    have found := (Value.find?_eq_some_iff _ _ _).mpr beyond
    cases found
  have told := text.stopped rfl (by decide) "first" _ stops
  have reached : listPayload.Reaches (Path.pieces "user.name") .null :=
    .member rfl (.member rfl (.here _))
  have silent := (textName.reached (by decide) _ reached).1 (.inl rfl)
  exact ⟨stops, told, (text.traced_iff "a" "b" (by decide)).mp ⟨_, told, rfl⟩, reached, silent,
    (textName.silent_iff "a" "b" (by decide)).mp silent,
    (booleanName.reached (by decide) _ reached).2 (by decide)⟩

end Reader

end IdentityClaims
