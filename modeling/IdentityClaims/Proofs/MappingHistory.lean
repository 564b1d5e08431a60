import IdentityClaims.Proofs.Isolation
import IdentityClaims.Proofs.RoundTrip

/-!
# Registers as finite maps

What an insert, an erasure or a clear leaves under a key depends on the step alone. So after any
number of them a key stands for what the last one of them left there, whatever the register was
filled with first and whatever happens to other registers meanwhile. Nothing but the look-ups of a
register shows in its size and in comparisons.
-/

namespace IdentityClaims

namespace MappingStep

/-- What a step leaves under a key of a register, which may be nothing. -/
def writes? (register key : String) : MappingStep → Option (Option String)
  | .insert written name value =>
    if written = register ∧ key = name then some (some value) else none
  | .erase written name => if written = register ∧ key = name then some none else none
  | .clear written => if written = register then some none else none
  | _ => none

/-- What the last of some steps that leaves something or nothing under a key leaves there. -/
def lastWrite? (register key : String) (steps : List MappingStep) : Option (Option String) :=
  steps.reverse.findSome? (writes? register key)

def isEdit : MappingStep → Bool
  | .insert _ _ _ | .erase _ _ | .clear _ => true
  | _ => false

/-- A step that writes a register only if it is an insert, an erasure or a clear. -/
def Edits (register : String) (step : MappingStep) : Prop :=
  step.target? = some (.mapping register) → step.isEdit

instance (register : String) : DecidablePred (Edits register) :=
  fun step => inferInstanceAs (Decidable (_ → step.isEdit))

/-- Inserts pairs in a register one by one. -/
def inserts (register : String) (pairs : List (String × String)) : List MappingStep :=
  pairs.map fun pair => .insert register pair.1 pair.2

/-- Fills three registers with the same pairs: they are collected, loaded from a text, and
inserted in a default mapping. -/
def threeWays (collected loaded inserted : String) (pairs : List (String × String))
    (text : String) : List MappingStep :=
  .collect collected pairs :: .load loaded text :: .collect inserted [] :: inserts inserted pairs

theorem lastWrite?_cons (register key : String) (step : MappingStep) (rest : List MappingStep) :
    lastWrite? register key (step :: rest) =
      (lastWrite? register key rest).or (step.writes? register key) := by
  unfold lastWrite?
  rw [List.reverse_cons, List.findSome?_append, List.findSome?_singleton]

/-! ## Steps on values -/

section

variable {registers : Registers} {register : String} {mapping : Mapping}

theorem writes?_of_target?_ne {step : MappingStep}
    (other : step.target? ≠ some (.mapping register)) (key : String) :
    step.writes? register key = none := by
  cases step with
  | insert written | erase written =>
    exact if_neg fun own => other (congrArg (some ∘ Register.mapping) own.1)
  | clear written => exact if_neg fun own => other (congrArg (some ∘ Register.mapping) own)
  | _ => rfl

/-- A register that is edited holds the edited mapping. -/
theorem mapping?_onMapping_put (read : registers.mapping? (.mapping register) = some mapping)
    (answer : Mapping → MappingAnswer) (edit : Mapping → Mapping) :
    (registers.onMapping register fun held =>
      (answer held, registers.putMapping register (edit held))).2.mapping? (.mapping register) =
        some (edit mapping) := by
  have found : Table.get? registers.mappings register = some mapping := read
  rw [Registers.onMapping, found]
  exact (Registers.mapping?_put registers (.mapping register) _ _).trans (if_pos rfl)

/-- After a step every key of a register stands for what the step leaves there, or else for what
it stood for. -/
theorem get?_run (read : registers.mapping? (.mapping register) = some mapping)
    {step : MappingStep} (edits : step.Edits register) :
    ∃ next, (step.run registers).2.mapping? (.mapping register) = some next ∧
      ∀ key, next.get? key = (step.writes? register key).getD (mapping.get? key) := by
  by_cases own : step.target? = some (.mapping register)
  · have edit := edits own
    cases step with
    | insert written name value =>
      cases own
      refine ⟨_, mapping?_onMapping_put read _ (·.insert name value), fun key => ?_⟩
      rw [Mapping.get?_insert, writes?]
      by_cases same : key = name <;> simp [same]
    | erase written name =>
      cases own
      refine ⟨_, mapping?_onMapping_put read _ (·.erase name), fun key => ?_⟩
      rw [Mapping.get?_erase, writes?]
      by_cases same : key = name <;> simp [same]
    | clear written =>
      cases own
      refine ⟨_, mapping?_onMapping_put read _ fun _ => .empty, fun key => ?_⟩
      rw [writes?, if_pos rfl]
      rfl
    | _ => cases edit
  · refine ⟨mapping, ?_, fun key => ?_⟩
    · rw [mapping?_run_of_target?_ne own, read]
    · rw [writes?_of_target?_ne own, Option.getD_none]

end

end MappingStep

namespace SharedRegisters

/-- A register of mappings that was filled. -/
def Filled (registers : SharedRegisters) (register : String) : Prop :=
  ∃ mapping, registers.mapping? (.mapping register) = some mapping

/-- Registers that are the same and choose the same paths. -/
structure Alike (registers : SharedRegisters) (left right : String) : Prop where
  same : (registers.run (.same left right)).1 = .truth true
  path (name : String) :
    (registers.run (.path left name)).1 = (registers.run (.path right name)).1

/-! ## Answers -/

section

variable {registers : SharedRegisters} {register left right : String} {a b mapping : Mapping}

theorem answer_onCell (read : registers.mapping? (.mapping register) = some mapping)
    {step : Nat → Mapping → MappingAnswer × SharedRegisters} (answer : Mapping → MappingAnswer)
    (answers : ∀ place held, (step place held).1 = answer held) :
    (registers.onCell (.mapping register) step).1 = answer mapping := by
  obtain ⟨place, -, stepped⟩ := onCell_of_some read step
  rw [stepped, answers]

theorem answer_get (read : registers.mapping? (.mapping register) = some mapping) (key : String) :
    (registers.run (.get register key)).1 = .entry (mapping.get? key) :=
  answer_onCell read (fun held => .entry (held.get? key)) fun _ _ => rfl

theorem answer_size (read : registers.mapping? (.mapping register) = some mapping) :
    (registers.run (.size register)).1 = .count mapping.size :=
  answer_onCell read (fun held => .count held.size) fun _ _ => rfl

theorem answer_path (read : registers.mapping? (.mapping register) = some mapping)
    (name : String) : (registers.run (.path register name)).1 = .path (mapping.choose name) :=
  answer_onCell read (fun held => .path (held.choose name)) fun _ _ => rfl

theorem answer_same (readLeft : registers.mapping? (.mapping left) = some a)
    (readRight : registers.mapping? (.mapping right) = some b) :
    (registers.run (.same left right)).1 = .truth (a.same b) :=
  answer_onCell readLeft (fun held => .truth (held.same b)) fun _ held =>
    answer_onCell readRight (fun other => .truth (held.same other)) fun _ _ => rfl

/-- An insert and an erasure answer what their key stood for. -/
theorem answer_edit (registers : SharedRegisters) (register key value : String) :
    (registers.run (.insert register key value)).1 = (registers.run (.get register key)).1 ∧
      (registers.run (.erase register key)).1 = (registers.run (.get register key)).1 := by
  cases read : registers.mapping? (.mapping register) with
  | none => simp only [run, onCell_of_none read, and_self]
  | some mapping =>
    have entry : ∀ step : Nat → Mapping → MappingAnswer × SharedRegisters,
        (∀ place held, (step place held).1 = .entry (held.get? key)) →
          (registers.onCell (.mapping register) step).1 = .entry (mapping.get? key) :=
      fun _ answers => answer_onCell read _ answers
    rw [answer_get read]
    exact ⟨entry _ fun _ _ => rfl, entry _ fun _ _ => rfl⟩

/-- Comparing answers is comparing what the keys stand for. -/
theorem answer_get_congr_iff (readLeft : registers.mapping? (.mapping left) = some a)
    (readRight : registers.mapping? (.mapping right) = some b) :
    (∀ key, (registers.run (.get left key)).1 = (registers.run (.get right key)).1) ↔
      ∀ key, a.get? key = b.get? key := by
  refine forall_congr' fun key => ?_
  rw [answer_get readLeft, answer_get readRight, MappingAnswer.entry.injEq]

end

/-! ## Sessions -/

section

variable {shared : SharedRegisters} {registers : Registers} {register : String}
  {mapping : Mapping} (represents : shared.Represents registers)

include represents

/-- After any edits every key of a register stands for what was left there last, or else for what
it stood for. -/
theorem Represents.get?_after (read : shared.mapping? (.mapping register) = some mapping)
    {steps : List MappingStep} (edits : ∀ step ∈ steps, step.Edits register) :
    ∃ final, (shared.after steps).mapping? (.mapping register) = some final ∧
      ∀ key, final.get? key =
        (MappingStep.lastWrite? register key steps).getD (mapping.get? key) := by
  induction steps generalizing shared registers mapping with
  | nil => exact ⟨mapping, read, fun _ => rfl⟩
  | cons step rest ih =>
    obtain ⟨first, later⟩ := List.forall_mem_cons.mp edits
    obtain ⟨next, written, seen⟩ :=
      MappingStep.get?_run (represents.mapping? _ ▸ read) first
    have run := (represents.run step).2
    obtain ⟨final, last, entries⟩ := ih run (run.mapping? _ ▸ written) later
    refine ⟨final, ?_, fun key => ?_⟩
    · rw [after_cons, last]
    · rw [entries, seen, MappingStep.lastWrite?_cons]
      cases MappingStep.lastWrite? register key rest <;> rfl

theorem Represents.mapping?_after_inserts
    (read : shared.mapping? (.mapping register) = some mapping)
    (pairs : List (String × String)) :
    (shared.after (MappingStep.inserts register pairs)).mapping? (.mapping register) =
      some (pairs.foldl (fun mapping pair => mapping.insert pair.1 pair.2) mapping) := by
  induction pairs generalizing shared registers mapping with
  | nil => exact read
  | cons pair rest ih =>
    have run := (represents.run (.insert register pair.1 pair.2)).2
    have written := MappingStep.mapping?_onMapping_put (represents.mapping? _ ▸ read)
      (fun held => .entry (held.get? pair.1)) (·.insert pair.1 pair.2)
    rw [MappingStep.inserts, List.map_cons, after_cons]
    exact ih run (run.mapping? _ ▸ written)

/-- Three registers that are filled in the three ways hold the same mapping. -/
theorem Represents.mapping?_after_threeWays {collected loaded inserted : String}
    (apart : [collected, loaded, inserted].Nodup) (pairs : List (String × String))
    {text : String} (holds : Json.Document.parse? text = some (Mapping.textTable pairs)) :
    ∀ name ∈ [collected, loaded, inserted],
      (shared.after (MappingStep.threeWays collected loaded inserted pairs text)).mapping?
        (.mapping name) = some (.ofPairs pairs) := by
  simp only [List.nodup_cons, List.mem_cons, List.not_mem_nil, or_false, not_or] at apart
  obtain ⟨⟨collected_loaded, collected_inserted⟩, loaded_inserted, -⟩ := apart
  have parsed : Mapping.parse? text = some (.ofPairs pairs) := by
    rw [Mapping.parse?, holds, Option.bind_some]
    exact Mapping.ofDocument?_eq_some_iff.mpr ⟨pairs, rfl, rfl⟩
  -- The registers before anything is inserted.
  let opening : List MappingStep :=
    [.collect collected pairs, .load loaded text, .collect inserted []]
  let filled := ((registers.put (.mapping collected) (.ofPairs pairs)).put (.mapping loaded)
    (.ofPairs pairs)).put (.mapping inserted) .empty
  have values : MappingStep.after registers opening = filled := by
    simp only [opening, MappingStep.after_cons, MappingStep.run, parsed]
    rfl
  have opened : (shared.after opening).Represents filled := values ▸ represents.after opening
  have read (name : String) : (shared.after opening).mapping? (.mapping name) =
      if name = inserted then some .empty else if name = loaded then some (.ofPairs pairs)
      else if name = collected then some (.ofPairs pairs)
      else registers.mapping? (.mapping name) := by
    rw [opened.mapping?]
    simp only [filled, Registers.mapping?_put, Register.mapping.injEq]
  have split : MappingStep.threeWays collected loaded inserted pairs text =
      opening ++ MappingStep.inserts inserted pairs := rfl
  have kept {name : String} (other : name ≠ inserted) :
      (shared.after (MappingStep.threeWays collected loaded inserted pairs text)).mapping?
        (.mapping name) = (shared.after opening).mapping? (.mapping name) := by
    rw [split, after_append]
    refine opened.mapping?_after fun step member => ?_
    obtain ⟨pair, -, rfl⟩ := List.mem_map.mp member
    exact fun same => other (Register.mapping.inj (Option.some.inj same)).symm
  intro name member
  simp only [List.mem_cons, List.not_mem_nil, or_false] at member
  rcases member with rfl | rfl | rfl
  · rw [kept collected_inserted, read, if_neg collected_inserted, if_neg collected_loaded,
      if_pos rfl]
  · rw [kept loaded_inserted, read, if_neg loaded_inserted, if_pos rfl]
  · rw [split, after_append, opened.mapping?_after_inserts (by rw [read, if_pos rfl]),
      Mapping.foldl_insert_empty]

end

/-- In every session a register answers as a finite map. After any edits, whatever it was filled
with before them and whatever else is done meanwhile, a key stands for what the last edit of it
left there, or else for what it stood for; an insert and an erasure answer what their key stood
for; the size counts the keys that stand for anything; and two registers are the same exactly when
every key stands for the same in both. Pairs that are collected, loaded as an object with these
members and inserted one by one fill registers that are alike: in all of them a key stands for its
last value. -/
theorem register_finiteMap (earlier : List MappingStep) :
    (∀ register key initial later,
      ((empty.after earlier).run (.get register key)).1 = .entry initial →
      (∀ step ∈ later, MappingStep.Edits register step) →
      ((empty.after (earlier ++ later)).run (.get register key)).1 =
        .entry ((MappingStep.lastWrite? register key later).getD initial)) ∧
    (∀ register key value,
      ((empty.after earlier).run (.insert register key value)).1 =
          ((empty.after earlier).run (.get register key)).1 ∧
        ((empty.after earlier).run (.erase register key)).1 =
          ((empty.after earlier).run (.get register key)).1) ∧
    (∀ register, (empty.after earlier).Filled register → ∃ keys : Finset String,
      (∀ key, key ∈ keys ↔ ((empty.after earlier).run (.get register key)).1 ≠ .entry none) ∧
        ((empty.after earlier).run (.size register)).1 = .count keys.card) ∧
    (∀ left right, (empty.after earlier).Filled left → (empty.after earlier).Filled right →
      ∃ truth, ((empty.after earlier).run (.same left right)).1 = .truth truth ∧
        (truth = true ↔ ∀ key, ((empty.after earlier).run (.get left key)).1 =
          ((empty.after earlier).run (.get right key)).1)) ∧
    (∀ pairs,
      Json.Document.parse? (Mapping.tableJson pairs).render = some (Mapping.textTable pairs)) ∧
    ∀ pairs text collected loaded inserted,
      Json.Document.parse? text = some (Mapping.textTable pairs) →
      [collected, loaded, inserted].Nodup →
      ∀ left ∈ [collected, loaded, inserted],
        (∀ key, ((empty.after (earlier ++ MappingStep.threeWays collected loaded inserted pairs
            text)).run (.get left key)).1 = .entry (Table.get? pairs.reverse key)) ∧
        ∀ right ∈ [collected, loaded, inserted],
          (empty.after (earlier ++ MappingStep.threeWays collected loaded inserted pairs
            text)).Alike left right := by
  have represents := represents_empty.after earlier
  refine ⟨?_, answer_edit _, ?_, ?_, fun pairs => ?_, ?_⟩
  · intro register key initial later before edits
    cases read : (empty.after earlier).mapping? (.mapping register) with
    | none =>
      rw [run, onCell_of_none read] at before
      cases before
    | some mapping =>
      obtain ⟨final, last, entries⟩ := represents.get?_after read edits
      rw [answer_get read, MappingAnswer.entry.injEq] at before
      rw [after_append, answer_get last, entries, before]
  · rintro register ⟨mapping, read⟩
    refine ⟨mapping.keys, fun key => ?_, ?_⟩
    · rw [answer_get read, mapping.mem_keys_iff, ne_eq, ne_eq, MappingAnswer.entry.injEq]
    · rw [answer_size read, mapping.card_keys]
  · rintro left right ⟨a, readLeft⟩ ⟨b, readRight⟩
    refine ⟨a.same b, answer_same readLeft readRight, ?_⟩
    rw [Mapping.same_iff, answer_get_congr_iff readLeft readRight]
  · rw [Json.Value.parse?_render, Mapping.toDocument_tableJson]
  · intro pairs text collected loaded inserted holds apart left among
    have read := represents.mapping?_after_threeWays apart pairs holds
    rw [← after_append] at read
    refine ⟨fun key => ?_, fun right amongRight => ⟨?_, fun name => ?_⟩⟩
    · rw [answer_get (read left among), Mapping.get?_ofPairs]
    · rw [answer_same (read left among) (read right amongRight), Mapping.same_iff.mpr fun _ => rfl]
    · rw [answer_path (read left among), answer_path (read right amongRight)]

/-! The statement at a copied register, which is edited after its source, and at pairs of one
key. -/

def copiedSteps : List MappingStep := [.collect "a" [("Email", "mail")], .copy "a" "b"]

def laterSteps : List MappingStep :=
  [.insert "b" "Email" "address", .clear "a", .insert "b" "Phone" "tel", .erase "b" "Phone"]

theorem register_finiteMap_copied :
    ((empty.after copiedSteps).run (.get "b" "Email")).1 = .entry (some "mail") ∧
      (∀ step ∈ laterSteps, MappingStep.Edits "b" step) ∧
      ((empty.after (copiedSteps ++ laterSteps)).run (.get "b" "Email")).1 =
        .entry (some "address") ∧
      (empty.after copiedSteps).Filled "a" ∧ (empty.after copiedSteps).Filled "b" ∧
      (∃ truth, ((empty.after copiedSteps).run (.same "a" "b")).1 = .truth truth ∧
        (truth = true ↔ ∀ key, ((empty.after copiedSteps).run (.get "a" key)).1 =
          ((empty.after copiedSteps).run (.get "b" key)).1)) ∧
      (empty.after (copiedSteps ++ MappingStep.threeWays "c" "d" "a" [("k", "v"), ("k", "w")]
        (Mapping.tableJson [("k", "v"), ("k", "w")]).render)).Alike "d" "a" := by
  obtain ⟨gets, -, -, sames, written, ways⟩ := register_finiteMap copiedSteps
  have before : ((empty.after copiedSteps).run (.get "b" "Email")).1 = .entry (some "mail") := rfl
  have edits : ∀ step ∈ laterSteps, MappingStep.Edits "b" step := by decide
  have source : (empty.after copiedSteps).Filled "a" := ⟨_, rfl⟩
  have copy : (empty.after copiedSteps).Filled "b" := ⟨_, rfl⟩
  refine ⟨before, edits, gets _ _ _ _ before edits, source, copy, sames _ _ source copy, ?_⟩
  exact (ways _ _ "c" "d" "a" (written _) (by decide) "d" (by decide)).2 "a" (by decide)

end SharedRegisters

end IdentityClaims
