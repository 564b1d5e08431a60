import IdentityClaims.Session.Mappings

/-!
# Sessions on shared mappings

A copy is cheap: register and copy hold one cell, and the cell counts its holders. A mapping is
changed (`deref_mut`) in its cell as long as that has one holder; a register that shares its cell
moves to a new one first, with the changed mapping in it.
-/

namespace IdentityClaims

/-- The registers of a session, of both kinds. -/
inductive Register where
  | mapping (name : String)
  | resolver (name : String)
  deriving DecidableEq, Repr

namespace Registers

/-- The mapping in a register, for a resolver the one it chooses paths by. -/
def mapping? (registers : Registers) : Register → Option Mapping
  | .mapping name => Table.get? registers.mappings name
  | .resolver name => (Table.get? registers.resolvers name).map Resolver.mapping

def put (registers : Registers) (register : Register) (mapping : Mapping) : Registers :=
  match register with
  | .mapping name => registers.putMapping name mapping
  | .resolver name => registers.putResolver name ⟨mapping⟩

end Registers

/-- A mapping with the number of its holders. -/
structure Cell where
  mapping : Mapping
  holders : Nat
  deriving Repr

/-- Registers that hold cells by their places. A cell that has lost its last holder stays where it
is, but nothing holds it again. -/
structure SharedRegisters where
  cells : List Cell
  mappings : Table Nat
  resolvers : Table Nat
  deriving Repr

namespace SharedRegisters

def empty : SharedRegisters := ⟨[], [], []⟩

/-- The place of the cell that a register holds. -/
def place? (registers : SharedRegisters) : Register → Option Nat
  | .mapping name => Table.get? registers.mappings name
  | .resolver name => Table.get? registers.resolvers name

def mapping? (registers : SharedRegisters) (register : Register) : Option Mapping := do
  let place ← registers.place? register
  return (← registers.cells[place]?).mapping

/-- Lets a register hold a place. The holders of cells are not counted anew. -/
def hold (registers : SharedRegisters) (register : Register) (place : Nat) : SharedRegisters :=
  match register with
  | .mapping name => { registers with mappings := Table.put name place registers.mappings }
  | .resolver name => { registers with resolvers := Table.put name place registers.resolvers }

/-- Adds a cell that is to have one holder; its place is the number of cells before. -/
def add (registers : SharedRegisters) (mapping : Mapping) : SharedRegisters :=
  { registers with cells := registers.cells ++ [⟨mapping, 1⟩] }

/-- Changes the mapping in the cell at a place. -/
def overwrite (registers : SharedRegisters) (place : Nat) (f : Mapping → Mapping) :
    SharedRegisters :=
  { registers with
    cells := registers.cells.modify place fun cell => { cell with mapping := f cell.mapping } }

/-- Changes the number of holders in the cell at a place. -/
def recount (registers : SharedRegisters) (place : Nat) (f : Nat → Nat) : SharedRegisters :=
  { registers with
    cells := registers.cells.modify place fun cell => { cell with holders := f cell.holders } }

/-- Hands a place that is counted already to a register, which lets go of the one it held. -/
def assign (registers : SharedRegisters) (register : Register) (place : Nat) : SharedRegisters :=
  match registers.place? register with
  | some old => (registers.recount old (· - 1)).hold register place
  | none => registers.hold register place

/-- Writes a mapping to a register, in a cell of its own. -/
def put (registers : SharedRegisters) (register : Register) (mapping : Mapping) :
    SharedRegisters :=
  (registers.add mapping).assign register registers.cells.length

/-- Copies a register that holds a place: both hold it. -/
def share (registers : SharedRegisters) (place : Nat) (into : Register) : SharedRegisters :=
  (registers.recount place (· + 1)).assign into place

/-- Changes the mapping in a register that holds a place: in its cell if nothing else holds that,
and otherwise in a new one. -/
def change (registers : SharedRegisters) (register : Register) (place : Nat)
    (f : Mapping → Mapping) : SharedRegisters :=
  match registers.cells[place]? with
  | some cell =>
    if cell.holders = 1 then registers.overwrite place f
    else registers.put register (f cell.mapping)
  | none => registers

/-- Carries out a step on the cell that a register holds. -/
def onCell (registers : SharedRegisters) (register : Register)
    (step : Nat → Mapping → MappingAnswer × SharedRegisters) : MappingAnswer × SharedRegisters :=
  match registers.place? register, registers.mapping? register with
  | some place, some mapping => step place mapping
  | _, _ => (.noSuchRegister, registers)

/-- The answer to a step, and the registers after it. -/
def run (registers : SharedRegisters) : MappingStep → MappingAnswer × SharedRegisters
  | .collect into pairs => (.done, registers.put (.mapping into) (.ofPairs pairs))
  | .load into text =>
    match Mapping.parse? text with
    | some mapping => (.done, registers.put (.mapping into) mapping)
    | none => (.undecodable, registers)
  | .copy source into => registers.onCell (.mapping source) fun place _ =>
    (.done, registers.share place (.mapping into))
  | .insert register key value => registers.onCell (.mapping register) fun place mapping =>
    (.entry (mapping.get? key), registers.change (.mapping register) place (·.insert key value))
  | .erase register key => registers.onCell (.mapping register) fun place mapping =>
    (.entry (mapping.get? key), registers.change (.mapping register) place (·.erase key))
  | .clear register => registers.onCell (.mapping register) fun place _ =>
    (.done, registers.change (.mapping register) place fun _ => .empty)
  | .get register key => registers.onCell (.mapping register) fun _ mapping =>
    (.entry (mapping.get? key), registers)
  | .size register => registers.onCell (.mapping register) fun _ mapping =>
    (.count mapping.size, registers)
  | .same left right => registers.onCell (.mapping left) fun _ a =>
    registers.onCell (.mapping right) fun _ b => (.truth (a.same b), registers)
  | .path register name => registers.onCell (.mapping register) fun _ mapping =>
    (.path (mapping.choose name), registers)
  | .resolver source into => registers.onCell (.mapping source) fun place _ =>
    (.done, registers.share place (.resolver into))
  | .defaultResolver into => (.done, registers.put (.resolver into) .empty)
  | .copyResolver source into => registers.onCell (.resolver source) fun place _ =>
    (.done, registers.share place (.resolver into))
  | .resolverMapping source into => registers.onCell (.resolver source) fun place _ =>
    (.done, registers.share place (.mapping into))
  | .call name question payload => registers.onCell (.resolver name) fun _ mapping =>
    match Json.Value.parse? payload with
    | some payload => (.call (Resolver.answer ⟨mapping⟩ payload question), registers)
    | none => (.invalidPayload, registers)

/-- The answers to a list of steps, each with the registers after it. -/
def runAll (registers : SharedRegisters) :
    List MappingStep → List (MappingAnswer × SharedRegisters)
  | [] => []
  | step :: rest =>
    let outcome := registers.run step
    outcome :: runAll outcome.2 rest

end SharedRegisters

end IdentityClaims
