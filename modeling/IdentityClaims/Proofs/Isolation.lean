import IdentityClaims.Proofs.Sharing

/-!
# Isolation of copies

A step writes one register at most, and every other register holds the mapping it held, however
many of them share its cell. So a copy keeps the mapping its source had at the moment of copying
until the copy itself is written, and a resolver answers by that mapping all the time.
-/

namespace IdentityClaims

/-- An answer of a step that was not carried out. -/
def MappingAnswer.Failed : MappingAnswer → Prop
  | .noSuchRegister | .undecodable | .invalidPayload => True
  | _ => False

/-- The answer of a resolver to a question about a payload given as text. -/
def Resolver.reply (resolver : Resolver) (question : Call) (payload : String) : MappingAnswer :=
  match Json.Value.parse? payload with
  | some payload => .call (resolver.answer payload question)
  | none => .invalidPayload

namespace MappingStep

/-- The register that a step writes. -/
def target? : MappingStep → Option Register
  | .collect into _ => some (.mapping into)
  | .load into _ => some (.mapping into)
  | .copy _ into => some (.mapping into)
  | .insert register _ _ => some (.mapping register)
  | .erase register _ => some (.mapping register)
  | .clear register => some (.mapping register)
  | .resolver _ into => some (.resolver into)
  | .defaultResolver into => some (.resolver into)
  | .copyResolver _ into => some (.resolver into)
  | .resolverMapping _ into => some (.mapping into)
  | .get _ _ | .size _ | .same _ _ | .path _ _ | .call _ _ _ => none

/-- The registers that a step copies from and to. -/
def copies? : MappingStep → Option (Register × Register)
  | .copy source into => some (.mapping source, .mapping into)
  | .resolver source into => some (.mapping source, .resolver into)
  | .copyResolver source into => some (.resolver source, .resolver into)
  | .resolverMapping source into => some (.resolver source, .mapping into)
  | _ => none

/-! ## Registers as values -/

section

variable {registers : Registers} {register : Register} {name : String}

theorem mapping?_onMapping {step : Mapping → MappingAnswer × Registers}
    (kept : ∀ mapping, (step mapping).2.mapping? register = registers.mapping? register) :
    (registers.onMapping name step).2.mapping? register = registers.mapping? register := by
  unfold Registers.onMapping
  cases Table.get? registers.mappings name with
  | none => rfl
  | some mapping => exact kept mapping

theorem mapping?_onResolver {step : Resolver → MappingAnswer × Registers}
    (kept : ∀ resolver, (step resolver).2.mapping? register = registers.mapping? register) :
    (registers.onResolver name step).2.mapping? register = registers.mapping? register := by
  unfold Registers.onResolver
  cases Table.get? registers.resolvers name with
  | none => rfl
  | some resolver => exact kept resolver

/-- A step keeps every register that it does not write. -/
theorem mapping?_run_of_target?_ne {step : MappingStep} (other : step.target? ≠ some register) :
    (step.run registers).2.mapping? register = registers.mapping? register := by
  have kept : ∀ written mapping, some written ≠ some register →
      (registers.put written mapping).mapping? register = registers.mapping? register := by
    intro written mapping apart
    rw [Registers.mapping?_put, if_neg fun same => apart (congrArg some same.symm)]
  cases step with
  | collect into pairs => exact kept (.mapping into) _ other
  | load into text =>
    rw [run]
    cases Mapping.parse? text with
    | none => rfl
    | some mapping => exact kept (.mapping into) mapping other
  | copy source into => exact mapping?_onMapping fun mapping => kept (.mapping into) mapping other
  | insert written | erase written | clear written =>
    exact mapping?_onMapping fun mapping => kept (.mapping written) _ other
  | get | size | path => exact mapping?_onMapping fun _ => rfl
  | same => exact mapping?_onMapping fun _ => mapping?_onMapping fun _ => rfl
  | resolver source into =>
    exact mapping?_onMapping fun mapping => kept (.resolver into) mapping other
  | defaultResolver into => exact kept (.resolver into) .empty other
  | copyResolver source into =>
    exact mapping?_onResolver fun resolver => kept (.resolver into) resolver.mapping other
  | resolverMapping source into =>
    exact mapping?_onResolver fun resolver => kept (.mapping into) resolver.mapping other
  | call name question payload =>
    refine mapping?_onResolver fun resolver => ?_
    cases Json.Value.parse? payload <;> rfl

/-- A copy holds what its source held. -/
theorem mapping?_run_of_copies? {step : MappingStep} {source into : Register} {mapping : Mapping}
    (copies : step.copies? = some (source, into))
    (read : registers.mapping? source = some mapping) :
    (step.run registers).2.mapping? into = some mapping := by
  have written : (registers.put into mapping).mapping? into = some mapping := by
    rw [Registers.mapping?_put, if_pos rfl]
  cases step with
  | copy origin copied | resolver origin copied =>
    cases copies
    have found : Table.get? registers.mappings origin = some mapping := read
    rw [run, Registers.onMapping, found]
    exact written
  | copyResolver origin copied | resolverMapping origin copied =>
    cases copies
    obtain ⟨resolver, found, rfl⟩ := Option.map_eq_some_iff.mp read
    rw [run, Registers.onResolver, found]
    exact written
  | _ => cases copies

end

/-- The registers after a session. -/
def after (registers : Registers) (steps : List MappingStep) : Registers :=
  finalState registers (runAll registers steps)

theorem after_cons (registers : Registers) (step : MappingStep) (rest : List MappingStep) :
    after registers (step :: rest) = after (step.run registers).2 rest :=
  finalState_cons registers (step.run registers) _

end MappingStep

namespace SharedRegisters

/-! ## Sessions -/

/-- The registers after a session. -/
def after (registers : SharedRegisters) (steps : List MappingStep) : SharedRegisters :=
  finalState registers (registers.runAll steps)

theorem after_cons (registers : SharedRegisters) (step : MappingStep) (rest : List MappingStep) :
    registers.after (step :: rest) = (registers.run step).2.after rest :=
  finalState_cons registers (registers.run step) _

theorem after_append (registers : SharedRegisters) (earlier later : List MappingStep) :
    registers.after (earlier ++ later) = (registers.after earlier).after later := by
  induction earlier generalizing registers with
  | nil => rfl
  | cons step rest ih => rw [List.cons_append, after_cons, after_cons, ih]

section

variable {shared : SharedRegisters} {registers : Registers}
  (represents : shared.Represents registers)

include represents

/-- After a session the shared cells stand for the values after it. -/
theorem Represents.after (steps : List MappingStep) :
    (shared.after steps).Represents (MappingStep.after registers steps) := by
  induction steps generalizing shared registers with
  | nil => exact represents
  | cons step rest ih =>
    rw [after_cons, MappingStep.after_cons]
    exact ih (represents.run step).2

theorem Represents.mapping?_run {step : MappingStep} {register : Register}
    (other : step.target? ≠ some register) :
    (shared.run step).2.mapping? register = shared.mapping? register := by
  rw [(represents.run step).2.mapping?, MappingStep.mapping?_run_of_target?_ne other,
    represents.mapping?]

/-- A register keeps its mapping for as long as no step writes it. -/
theorem Represents.mapping?_after {steps : List MappingStep} {register : Register}
    (unwritten : ∀ step ∈ steps, step.target? ≠ some register) :
    (shared.after steps).mapping? register = shared.mapping? register := by
  induction steps generalizing shared registers with
  | nil => rfl
  | cons step rest ih =>
    obtain ⟨first, later⟩ := List.forall_mem_cons.mp unwritten
    rw [after_cons, ih (represents.run step).2 later, represents.mapping?_run first]

theorem Represents.mapping?_run_of_copies? {step : MappingStep} {source into : Register}
    {mapping : Mapping} (copies : step.copies? = some (source, into))
    (read : shared.mapping? source = some mapping) :
    (shared.run step).2.mapping? into = some mapping := by
  rw [(represents.run step).2.mapping?]
  exact MappingStep.mapping?_run_of_copies? copies (represents.mapping? source ▸ read)

end

/-- A resolver answers by the mapping it holds. -/
theorem answer_call {registers : SharedRegisters} {name : String} {mapping : Mapping}
    (read : registers.mapping? (.resolver name) = some mapping) (question : Call)
    (payload : String) :
    (registers.run (.call name question payload)).1 =
      Resolver.reply ⟨mapping⟩ question payload := by
  rw [run]
  obtain ⟨place, -, stepped⟩ := onCell_of_some read _
  rw [stepped, Resolver.reply]
  cases Json.Value.parse? payload <;> rfl

/-! ## Failed steps -/

theorem onCell_of_failed {registers : SharedRegisters} {register : Register}
    {step : Nat → Mapping → MappingAnswer × SharedRegisters}
    (kept : ∀ place mapping, (step place mapping).1.Failed → (step place mapping).2 = registers)
    (failed : (registers.onCell register step).1.Failed) :
    (registers.onCell register step).2 = registers := by
  cases read : registers.mapping? register with
  | none => rw [onCell_of_none read]
  | some mapping =>
    obtain ⟨place, -, stepped⟩ := onCell_of_some read step
    rw [stepped] at failed ⊢
    exact kept place mapping failed

/-- A failed step leaves the registers and their cells as they were. -/
theorem run_of_failed {registers : SharedRegisters} {step : MappingStep}
    (failed : (registers.run step).1.Failed) : (registers.run step).2 = registers := by
  cases step with
  | collect | defaultResolver => exact failed.elim
  | load into text =>
    rw [run] at failed ⊢
    cases parsed : Mapping.parse? text with
    | none => rfl
    | some mapping =>
      rw [parsed] at failed
      exact failed.elim
  | copy | insert | erase | clear | resolver | copyResolver | resolverMapping =>
    exact onCell_of_failed (fun _ _ failed => failed.elim) failed
  | get | size | path => exact onCell_of_failed (fun _ _ _ => rfl) failed
  | same =>
    exact onCell_of_failed (fun _ _ failed => onCell_of_failed (fun _ _ _ => rfl) failed) failed
  | call name question payload =>
    refine onCell_of_failed (fun _ _ _ => ?_) failed
    cases Json.Value.parse? payload <;> rfl

/-- In every session a register keeps its mapping for as long as no step writes it, whatever is
written to the registers it shares a cell with. So a copy keeps the mapping that its source held
at the moment of copying, and a resolver that was copied answers by that mapping for the rest of
the session. A failed step changes nothing, and nowhere can shared cells be told from values. -/
theorem copies_isolated (earlier later : List MappingStep) :
    (∀ register, (∀ step ∈ later, step.target? ≠ some register) →
      (empty.after (earlier ++ later)).mapping? register =
        (empty.after earlier).mapping? register) ∧
    (∀ step source into mapping, MappingStep.copies? step = some (source, into) →
      (empty.after earlier).mapping? source = some mapping →
      (∀ step ∈ later, step.target? ≠ some into) →
      (empty.after (earlier ++ step :: later)).mapping? into = some mapping ∧
        ∀ name, into = .resolver name → ∀ question payload,
          ((empty.after (earlier ++ step :: later)).run (.call name question payload)).1 =
            Resolver.reply ⟨mapping⟩ question payload) ∧
    (∀ step, ((empty.after earlier).run step).1.Failed →
      ((empty.after earlier).run step).2 = empty.after earlier) ∧
    List.Forall₂ Matches (empty.runAll earlier) (MappingStep.runAll .empty earlier) ∧
    ∀ register, (empty.after earlier).mapping? register =
      (MappingStep.after .empty earlier).mapping? register := by
  have represents := represents_empty.after earlier
  refine ⟨fun register unwritten => ?_, ?_, fun step failed => run_of_failed failed,
    represents_empty.runAll earlier, represents.mapping?⟩
  · rw [after_append, represents.mapping?_after unwritten]
  · intro step source into mapping copies read unwritten
    have copied : (empty.after (earlier ++ step :: later)).mapping? into = some mapping := by
      rw [after_append, after_cons, (represents.run step).2.mapping?_after unwritten]
      exact represents.mapping?_run_of_copies? copies read
    refine ⟨copied, ?_⟩
    rintro name rfl question payload
    exact answer_call copied question payload

example :
    (empty.after [.collect "a" [("Email", "mail")], .copy "a" "b", .resolver "b" "r",
        .insert "a" "Email" "address", .clear "b"]).mapping? (.resolver "r") =
      some (.ofPairs [("Email", "mail")]) := rfl

end SharedRegisters

end IdentityClaims
