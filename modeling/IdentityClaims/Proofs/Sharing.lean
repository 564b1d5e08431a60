import IdentityClaims.Session.Outcome
import IdentityClaims.Session.Sharing
import Mathlib.Data.List.Count

/-!
# Shared cells behave as copies

The count of every cell is the number of registers that hold it: each operation moves the two in
step. So a cell with one holder is seen through one register only, writing in it is a write to
that register alone, and a session on shared cells gives the answers of a session on values.
-/

namespace IdentityClaims

/-! ## Tables of places -/

/-- A write under a key puts one value in the place of another. -/
theorem Table.count_put (table : Table Nat) (key : String) (value other : Nat) :
    ((put key value table).map Prod.snd).count other +
        (if get? table key = some other then 1 else 0) =
      (table.map Prod.snd).count other + if value = other then 1 else 0 := by
  induction table with
  | nil => simp [put, get?, List.count_singleton]
  | cons entry rest ih =>
    obtain ⟨k, v⟩ := entry
    by_cases same : k = key
    · subst same
      simp only [put, get?_cons, if_pos, List.map_cons, List.count_cons, beq_iff_eq,
        Option.some.injEq]
      omega
    · rw [get?_cons, if_neg (Ne.symm same)]
      simp only [put, if_neg same, List.map_cons, List.count_cons]
      omega

theorem Table.count_pos_of_get? {table : Table Nat} {key : String} {value : Nat}
    (held : get? table key = some value) : 0 < (table.map Prod.snd).count value := by
  induction table with
  | nil => cases held
  | cons entry rest ih =>
    rw [get?_cons] at held
    rw [List.map_cons, List.count_cons]
    by_cases own : key = entry.1
    · rw [if_pos own] at held
      simp [Option.some.inj held]
    · rw [if_neg own] at held
      exact Nat.lt_of_lt_of_le (ih held) (Nat.le_add_right _ _)

/-- A write to a register is seen in that register and in no other. -/
theorem Registers.mapping?_put (registers : Registers) (register other : Register)
    (mapping : Mapping) :
    (registers.put register mapping).mapping? other =
      if other = register then some mapping else registers.mapping? other := by
  cases register with
  | mapping name =>
    cases other with
    | mapping otherName =>
      simp only [put, putMapping, mapping?, Table.get?_put, Register.mapping.injEq]
    | resolver otherName => simp [put, putMapping, mapping?]
  | resolver name =>
    cases other with
    | mapping otherName => simp [put, putResolver, mapping?]
    | resolver otherName =>
      simp only [put, putResolver, mapping?, Table.get?_put, Register.resolver.injEq]
      by_cases same : otherName = name <;> simp [same]

namespace SharedRegisters

/-! ## Cells and their holders -/

/-- The mapping in a cell. -/
def content? (registers : SharedRegisters) (place : Nat) : Option Mapping :=
  registers.cells[place]?.map Cell.mapping

/-- The holders that a cell counts; where there is no cell, none are counted. -/
def counted (registers : SharedRegisters) (place : Nat) : Nat :=
  (registers.cells[place]?.map Cell.holders).getD 0

/-- The number of registers that hold a place. -/
def holders (registers : SharedRegisters) (place : Nat) : Nat :=
  (registers.mappings.map Prod.snd).count place + (registers.resolvers.map Prod.snd).count place

/-- Every cell counts its holders. -/
def Counted (registers : SharedRegisters) : Prop :=
  ∀ place, registers.counted place = registers.holders place

section

variable {registers : SharedRegisters} {register other : Register} {place : Nat}

theorem mapping?_eq (registers : SharedRegisters) (register : Register) :
    registers.mapping? register = (registers.place? register).bind registers.content? := by
  unfold mapping?
  rw [Option.bind_eq_bind]
  congr 1
  funext place
  unfold content?
  cases registers.cells[place]? <;> rfl

theorem lt_of_counted_pos (positive : 0 < registers.counted place) :
    place < registers.cells.length := by
  by_contra past
  rw [counted, List.getElem?_eq_none (Nat.le_of_not_lt past)] at positive
  exact absurd positive (Nat.lt_irrefl 0)

theorem holders_pos_of_place? (held : registers.place? register = some place) :
    0 < registers.holders place := by
  cases register with
  | mapping name => exact Nat.lt_of_lt_of_le (Table.count_pos_of_get? held) (Nat.le_add_right _ _)
  | resolver name => exact Nat.lt_of_lt_of_le (Table.count_pos_of_get? held) (Nat.le_add_left _ _)

/-- A place that a register holds has a cell. -/
theorem Counted.lt_of_place? (balanced : registers.Counted)
    (held : registers.place? register = some place) : place < registers.cells.length :=
  lt_of_counted_pos (balanced place ▸ holders_pos_of_place? held)

theorem place?_hold (registers : SharedRegisters) (register other : Register) (place : Nat) :
    (registers.hold register place).place? other =
      if other = register then some place else registers.place? other := by
  cases register <;> cases other <;> simp [hold, place?, Table.get?_put]

/-- A register that is handed a place holds that one in the stead of another. -/
theorem holders_hold (registers : SharedRegisters) (register : Register) (place other : Nat) :
    (registers.hold register place).holders other +
        (if registers.place? register = some other then 1 else 0) =
      registers.holders other + if place = other then 1 else 0 := by
  cases register with
  | mapping name =>
    have exchange := Table.count_put registers.mappings name place other
    rw [show registers.place? (.mapping name) = Table.get? registers.mappings name from rfl]
    simp only [hold, holders]
    omega
  | resolver name =>
    have exchange := Table.count_put registers.resolvers name place other
    rw [show registers.place? (.resolver name) = Table.get? registers.resolvers name from rfl]
    simp only [hold, holders]
    omega

/-- A place with one holder is held by one register. -/
theorem eq_of_holders_eq_one (single : registers.holders place = 1)
    (held : registers.place? register = some place)
    (again : registers.place? other = some place) : other = register := by
  by_contra apart
  -- If the register let go of the place, the other one would hold it with no holder left.
  have exchange := holders_hold registers register (place + 1) place
  have left : (registers.hold register (place + 1)).place? other = some place := by
    rw [place?_hold, if_neg apart, again]
  have positive := holders_pos_of_place? left
  rw [if_pos held, if_neg (Nat.succ_ne_self place), single] at exchange
  omega

theorem counted_add (registers : SharedRegisters) (mapping : Mapping) (other : Nat) :
    (registers.add mapping).counted other =
      registers.counted other + if registers.cells.length = other then 1 else 0 := by
  unfold counted add
  rw [List.getElem?_append]
  by_cases inside : other < registers.cells.length
  · rw [if_pos inside, if_neg (Nat.ne_of_gt inside), Nat.add_zero]
  · rw [if_neg inside, List.getElem?_eq_none (Nat.le_of_not_lt inside)]
    by_cases last : registers.cells.length = other
    · simp [last]
    · have past : other - registers.cells.length ≠ 0 := by omega
      simp [last, past]

theorem content?_add (registers : SharedRegisters) (mapping : Mapping) (other : Nat) :
    (registers.add mapping).content? other =
      if other = registers.cells.length then some mapping else registers.content? other := by
  unfold content? add
  rw [List.getElem?_append]
  by_cases inside : other < registers.cells.length
  · rw [if_pos inside, if_neg (Nat.ne_of_lt inside)]
  · rw [if_neg inside]
    by_cases last : other = registers.cells.length
    · simp [last]
    · have past : 1 ≤ other - registers.cells.length := by omega
      rw [if_neg last, List.getElem?_eq_none past,
        List.getElem?_eq_none (Nat.le_of_not_lt inside)]

theorem counted_overwrite (registers : SharedRegisters) (place : Nat) (f : Mapping → Mapping)
    (other : Nat) : (registers.overwrite place f).counted other = registers.counted other := by
  unfold counted overwrite
  rw [List.getElem?_modify]
  by_cases same : place = other
  · subst same
    cases registers.cells[place]? <;> simp
  · simp [same]

theorem content?_overwrite (registers : SharedRegisters) (place : Nat) (f : Mapping → Mapping)
    (other : Nat) :
    (registers.overwrite place f).content? other =
      if place = other then (registers.content? other).map f else registers.content? other := by
  unfold content? overwrite
  rw [List.getElem?_modify]
  by_cases same : place = other
  · subst same
    cases registers.cells[place]? <;> simp
  · simp [same]

theorem counted_recount (inside : place < registers.cells.length) (f : Nat → Nat) (other : Nat) :
    (registers.recount place f).counted other =
      if place = other then f (registers.counted other) else registers.counted other := by
  unfold counted recount
  rw [List.getElem?_modify]
  by_cases same : place = other
  · subst same
    simp [List.getElem?_eq_getElem inside]
  · simp [same]

theorem content?_recount (registers : SharedRegisters) (place : Nat) (f : Nat → Nat)
    (other : Nat) : (registers.recount place f).content? other = registers.content? other := by
  unfold content? recount
  rw [List.getElem?_modify]
  by_cases same : place = other
  · subst same
    cases registers.cells[place]? <;> simp
  · simp [same]

/-! ## A place handed to a register -/

theorem place?_assign (registers : SharedRegisters) (register other : Register) (place : Nat) :
    (registers.assign register place).place? other =
      if other = register then some place else registers.place? other := by
  unfold assign
  cases registers.place? register with
  | none => exact place?_hold registers register other place
  | some old => exact place?_hold (registers.recount old _) register other place

theorem content?_assign (registers : SharedRegisters) (register : Register) (place other : Nat) :
    (registers.assign register place).content? other = registers.content? other := by
  have kept : ∀ shared : SharedRegisters,
      (shared.hold register place).content? other = shared.content? other := by
    intro shared
    cases register <;> rfl
  unfold assign
  cases registers.place? register with
  | none => exact kept registers
  | some old => rw [kept, content?_recount]

/-- A place that is counted once ahead of its holders may be handed to a register. -/
theorem counted_assign
    (ahead : ∀ other, registers.counted other =
      registers.holders other + if place = other then 1 else 0) :
    (registers.assign register place).Counted := by
  have kept : ∀ (shared : SharedRegisters) other,
      (shared.hold register place).counted other = shared.counted other := by
    intro shared other
    cases register <;> rfl
  intro other
  have exchange := holders_hold registers register place other
  have counts := ahead other
  unfold assign
  cases held : registers.place? register with
  | none =>
    rw [held, if_neg (by simp)] at exchange
    dsimp only
    rw [kept]
    omega
  | some old =>
    have inside : old < registers.cells.length := by
      apply lt_of_counted_pos
      rw [ahead old]
      exact Nat.lt_of_lt_of_le (holders_pos_of_place? held) (Nat.le_add_right _ _)
    have same : ((registers.recount old (· - 1)).hold register place).holders other =
        (registers.hold register place).holders other := by
      cases register <;> rfl
    rw [held] at exchange
    simp only [Option.some.injEq] at exchange
    dsimp only
    rw [kept, same, counted_recount inside]
    by_cases own : old = other
    · rw [if_pos own] at exchange ⊢
      omega
    · rw [if_neg own] at exchange ⊢
      omega

end

/-! ## Writing, copying and changing -/

section

variable {registers : SharedRegisters} (balanced : registers.Counted)

include balanced

/-- A register with a new cell holds what is in it; the other registers hold what they held. -/
theorem Counted.put (register : Register) (mapping : Mapping) :
    (registers.put register mapping).Counted ∧
      ∀ other, (registers.put register mapping).mapping? other =
        if other = register then some mapping else registers.mapping? other := by
  have same : ∀ other, (registers.add mapping).place? other = registers.place? other :=
    fun other => by cases other <;> rfl
  constructor
  · apply counted_assign
    intro other
    rw [counted_add, balanced other]
    rfl
  · intro other
    rw [mapping?_eq, mapping?_eq, SharedRegisters.put, place?_assign, same]
    by_cases own : other = register
    · rw [if_pos own, if_pos own, Option.bind_some, content?_assign, content?_add, if_pos rfl]
    · rw [if_neg own, if_neg own]
      cases held : registers.place? other with
      | none => rfl
      | some place =>
        have inside := balanced.lt_of_place? held
        rw [Option.bind_some, Option.bind_some, content?_assign, content?_add,
          if_neg (Nat.ne_of_lt inside)]

/-- A copy holds what its source holds; the other registers hold what they held. -/
theorem Counted.share {source : Register} {place : Nat}
    (held : registers.place? source = some place) (into : Register) :
    (registers.share place into).Counted ∧
      ∀ other, (registers.share place into).mapping? other =
        if other = into then registers.mapping? source else registers.mapping? other := by
  have inside := balanced.lt_of_place? held
  have same : ∀ other, (registers.recount place (· + 1)).place? other = registers.place? other :=
    fun other => by cases other <;> rfl
  constructor
  · apply counted_assign
    intro other
    have before := balanced other
    have kept : (registers.recount place (· + 1)).holders other = registers.holders other := rfl
    rw [counted_recount inside, kept]
    by_cases own : place = other
    · rw [if_pos own, if_pos own, before]
    · rw [if_neg own, if_neg own, before, Nat.add_zero]
  · have kept : (registers.share place into).content? = registers.content? := by
      funext other
      rw [SharedRegisters.share, content?_assign, content?_recount]
    intro other
    rw [mapping?_eq, mapping?_eq, mapping?_eq, kept, SharedRegisters.share, place?_assign, same,
      held]
    by_cases own : other = into
    · rw [if_pos own, if_pos own]
    · rw [if_neg own, if_neg own]

/-- A register that is changed holds the changed mapping; the other registers hold what they
held, also those it shared its cell with. -/
theorem Counted.change {register : Register} {place : Nat} {mapping : Mapping}
    (held : registers.place? register = some place)
    (read : registers.mapping? register = some mapping) (f : Mapping → Mapping) :
    (registers.change register place f).Counted ∧
      ∀ other, (registers.change register place f).mapping? other =
        if other = register then some (f mapping) else registers.mapping? other := by
  rw [mapping?_eq, held, Option.bind_some, content?] at read
  obtain ⟨cell, found, rfl⟩ := Option.map_eq_some_iff.mp read
  unfold SharedRegisters.change
  rw [found]
  dsimp only
  by_cases single : cell.holders = 1
  · have alone : registers.holders place = 1 := by
      rw [← balanced, counted, found]
      exact single
    have same : ∀ other, (registers.overwrite place f).place? other = registers.place? other :=
      fun other => by cases other <;> rfl
    rw [if_pos single]
    constructor
    · intro other
      rw [counted_overwrite, balanced other]
      rfl
    · intro other
      rw [mapping?_eq, mapping?_eq, same]
      by_cases own : other = register
      · rw [if_pos own, own, held, Option.bind_some, content?_overwrite, if_pos rfl, content?,
          found]
        rfl
      · rw [if_neg own]
        cases again : registers.place? other with
        | none => rfl
        | some there =>
          have apart : place ≠ there := by
            rintro rfl
            exact own (eq_of_holders_eq_one alone held again)
          rw [Option.bind_some, Option.bind_some, content?_overwrite, if_neg apart]
  · rw [if_neg single]
    exact balanced.put register (f cell.mapping)

end

/-! ## Steps on shared cells and on values -/

theorem onCell_of_none {registers : SharedRegisters} {register : Register}
    (empty : registers.mapping? register = none)
    (step : Nat → Mapping → MappingAnswer × SharedRegisters) :
    registers.onCell register step = (.noSuchRegister, registers) := by
  rw [onCell, empty]
  cases registers.place? register <;> rfl

theorem onCell_of_some {registers : SharedRegisters} {register : Register} {mapping : Mapping}
    (read : registers.mapping? register = some mapping)
    (step : Nat → Mapping → MappingAnswer × SharedRegisters) :
    ∃ place, registers.place? register = some place ∧
      registers.onCell register step = step place mapping := by
  have whole := read
  rw [mapping?_eq] at whole
  obtain ⟨place, held, -⟩ := Option.bind_eq_some_iff.mp whole
  exact ⟨place, held, by rw [onCell, read, held]⟩

/-- Shared cells stand for values: their counts are right, and every register holds the mapping
that it holds as a value. -/
structure Represents (shared : SharedRegisters) (registers : Registers) : Prop where
  counted : shared.Counted
  mapping? : ∀ register, shared.mapping? register = registers.mapping? register

/-- Outcomes with one answer, after which the registers hold the same mappings. -/
def Matches (shared : MappingAnswer × SharedRegisters) (plain : MappingAnswer × Registers) : Prop :=
  shared.1 = plain.1 ∧ shared.2.Represents plain.2

theorem represents_empty : empty.Represents .empty where
  counted _ := rfl
  mapping? register := by cases register <;> rfl

section

variable {shared : SharedRegisters} {registers : Registers}
  (represents : shared.Represents registers)

include represents

theorem Represents.put (register : Register) (mapping : Mapping) :
    (shared.put register mapping).Represents (registers.put register mapping) where
  counted := (represents.counted.put register mapping).1
  mapping? other := by
    rw [(represents.counted.put register mapping).2, Registers.mapping?_put,
      represents.mapping? other]

theorem Represents.share {source : Register} {place : Nat} {mapping : Mapping}
    (held : shared.place? source = some place) (read : shared.mapping? source = some mapping)
    (into : Register) : (shared.share place into).Represents (registers.put into mapping) where
  counted := (represents.counted.share held into).1
  mapping? other := by
    rw [(represents.counted.share held into).2, Registers.mapping?_put, read,
      represents.mapping? other]

theorem Represents.change {register : Register} {place : Nat} {mapping : Mapping}
    (held : shared.place? register = some place) (read : shared.mapping? register = some mapping)
    (f : Mapping → Mapping) :
    (shared.change register place f).Represents (registers.put register (f mapping)) where
  counted := (represents.counted.change held read f).1
  mapping? other := by
    rw [(represents.counted.change held read f).2, Registers.mapping?_put,
      represents.mapping? other]

/-- A step on the cell of a mapping register matches the step on its value. -/
theorem Represents.onMapping {name : String}
    {step : Nat → Mapping → MappingAnswer × SharedRegisters}
    {plain : Mapping → MappingAnswer × Registers}
    (matching : ∀ place mapping, shared.place? (.mapping name) = some place →
      shared.mapping? (.mapping name) = some mapping →
      Matches (step place mapping) (plain mapping)) :
    Matches (shared.onCell (.mapping name) step) (registers.onMapping name plain) := by
  have same := represents.mapping? (.mapping name)
  rw [Registers.mapping?] at same
  unfold Registers.onMapping
  rw [← same]
  cases read : shared.mapping? (.mapping name) with
  | none =>
    rw [onCell_of_none read]
    exact ⟨rfl, represents⟩
  | some mapping =>
    obtain ⟨place, held, stepped⟩ := onCell_of_some read step
    rw [stepped]
    exact matching place mapping held read

/-- A step on the cell of a resolver matches the step on its value. -/
theorem Represents.onResolver {name : String}
    {step : Nat → Mapping → MappingAnswer × SharedRegisters}
    {plain : Resolver → MappingAnswer × Registers}
    (matching : ∀ place mapping, shared.place? (.resolver name) = some place →
      shared.mapping? (.resolver name) = some mapping →
      Matches (step place mapping) (plain ⟨mapping⟩)) :
    Matches (shared.onCell (.resolver name) step) (registers.onResolver name plain) := by
  have same := represents.mapping? (.resolver name)
  rw [Registers.mapping?] at same
  unfold Registers.onResolver
  cases found : Table.get? registers.resolvers name with
  | none =>
    rw [found] at same
    rw [onCell_of_none same]
    exact ⟨rfl, represents⟩
  | some resolver =>
    rw [found] at same
    obtain ⟨place, held, stepped⟩ := onCell_of_some same step
    rw [stepped]
    exact matching place resolver.mapping held same

/-- A step on shared cells matches the step on values. -/
theorem Represents.run (step : MappingStep) : Matches (shared.run step) (step.run registers) := by
  cases step with
  | collect into pairs => exact ⟨rfl, represents.put (.mapping into) _⟩
  | load into text =>
    rw [SharedRegisters.run, MappingStep.run]
    cases Mapping.parse? text with
    | none => exact ⟨rfl, represents⟩
    | some mapping => exact ⟨rfl, represents.put (.mapping into) mapping⟩
  | copy source into =>
    exact represents.onMapping fun place mapping held read =>
      ⟨rfl, represents.share held read (.mapping into)⟩
  | insert register key value =>
    exact represents.onMapping fun place mapping held read =>
      ⟨rfl, represents.change held read (·.insert key value)⟩
  | erase register key =>
    exact represents.onMapping fun place mapping held read =>
      ⟨rfl, represents.change held read (·.erase key)⟩
  | clear register =>
    exact represents.onMapping fun place mapping held read =>
      ⟨rfl, represents.change held read fun _ => .empty⟩
  | get | size | path => exact represents.onMapping fun _ _ _ _ => ⟨rfl, represents⟩
  | same left right =>
    exact represents.onMapping fun _ _ _ _ =>
      represents.onMapping fun _ _ _ _ => ⟨rfl, represents⟩
  | resolver source into =>
    exact represents.onMapping fun place mapping held read =>
      ⟨rfl, represents.share held read (.resolver into)⟩
  | defaultResolver into => exact ⟨rfl, represents.put (.resolver into) .empty⟩
  | copyResolver source into =>
    exact represents.onResolver fun place mapping held read =>
      ⟨rfl, represents.share held read (.resolver into)⟩
  | resolverMapping source into =>
    exact represents.onResolver fun place mapping held read =>
      ⟨rfl, represents.share held read (.mapping into)⟩
  | call name question payload =>
    refine represents.onResolver fun place mapping held read => ?_
    cases Json.Value.parse? payload <;> exact ⟨rfl, represents⟩

end

/-- A session on shared cells matches the session on values, outcome by outcome. -/
theorem Represents.runAll {shared : SharedRegisters} {registers : Registers}
    (represents : shared.Represents registers) (steps : List MappingStep) :
    List.Forall₂ Matches (shared.runAll steps) (MappingStep.runAll registers steps) := by
  induction steps generalizing shared registers with
  | nil => exact .nil
  | cons step rest ih => exact .cons (represents.run step) (ih (represents.run step).2)

end SharedRegisters

end IdentityClaims
