import IdentityClaims.Claim.Decoding
import IdentityClaims.Resolver.Call

/-!
# Sessions on mappings and resolvers

A session names mappings (`ClaimMapping`) and, apart from them, resolvers by registers. A copy is a
value: what is later written to one register never shows in another. A step on a register that was
never filled changes nothing.
-/

namespace IdentityClaims

structure Registers where
  mappings : Table Mapping
  resolvers : Table Resolver
  deriving Repr

inductive MappingStep where
  | collect (into : String) (pairs : List (String × String))
  | load (into text : String)
  | copy (source into : String)
  | insert (register key value : String)
  | erase (register key : String)
  | clear (register : String)
  | get (register key : String)
  | size (register : String)
  | same (left right : String)
  | path (register name : String)
  | resolver (source into : String)
  | defaultResolver (into : String)
  | copyResolver (source into : String)
  | resolverMapping (source into : String)
  /-- A question to a resolver about a payload, which is given as JSON text. -/
  | call (resolver : String) (question : Call) (payload : String)
  deriving Repr

inductive MappingAnswer where
  | done
  | noSuchRegister
  | undecodable
  | invalidPayload
  | entry (value : Option String)
  | count (n : Nat)
  | truth (value : Bool)
  | path (choice : PathChoice)
  | call (answer : CallAnswer)

namespace Registers

def empty : Registers := ⟨[], []⟩

def putMapping (registers : Registers) (name : String) (mapping : Mapping) : Registers :=
  { registers with mappings := Table.put name mapping registers.mappings }

def putResolver (registers : Registers) (name : String) (resolver : Resolver) : Registers :=
  { registers with resolvers := Table.put name resolver registers.resolvers }

/-- Carries out a step on the mapping in a register. -/
def onMapping (registers : Registers) (name : String)
    (step : Mapping → MappingAnswer × Registers) : MappingAnswer × Registers :=
  match Table.get? registers.mappings name with
  | some mapping => step mapping
  | none => (.noSuchRegister, registers)

/-- Carries out a step on the resolver in a register. -/
def onResolver (registers : Registers) (name : String)
    (step : Resolver → MappingAnswer × Registers) : MappingAnswer × Registers :=
  match Table.get? registers.resolvers name with
  | some resolver => step resolver
  | none => (.noSuchRegister, registers)

end Registers

namespace MappingStep

/-- The answer to a step, and the registers after it. -/
def run (registers : Registers) : MappingStep → MappingAnswer × Registers
  | .collect into pairs => (.done, registers.putMapping into (.ofPairs pairs))
  | .load into text =>
    match Mapping.parse? text with
    | some mapping => (.done, registers.putMapping into mapping)
    | none => (.undecodable, registers)
  | .copy source into => registers.onMapping source fun mapping =>
    (.done, registers.putMapping into mapping)
  | .insert register key value => registers.onMapping register fun mapping =>
    (.entry (mapping.get? key), registers.putMapping register (mapping.insert key value))
  | .erase register key => registers.onMapping register fun mapping =>
    (.entry (mapping.get? key), registers.putMapping register (mapping.erase key))
  | .clear register => registers.onMapping register fun _ =>
    (.done, registers.putMapping register .empty)
  | .get register key => registers.onMapping register fun mapping =>
    (.entry (mapping.get? key), registers)
  | .size register => registers.onMapping register fun mapping => (.count mapping.size, registers)
  | .same left right => registers.onMapping left fun a => registers.onMapping right fun b =>
    (.truth (a.same b), registers)
  | .path register name => registers.onMapping register fun mapping =>
    (.path (mapping.choose name), registers)
  | .resolver source into => registers.onMapping source fun mapping =>
    (.done, registers.putResolver into ⟨mapping⟩)
  | .defaultResolver into => (.done, registers.putResolver into ⟨.empty⟩)
  | .copyResolver source into => registers.onResolver source fun resolver =>
    (.done, registers.putResolver into resolver)
  | .resolverMapping source into => registers.onResolver source fun resolver =>
    (.done, registers.putMapping into resolver.mapping)
  | .call name question payload => registers.onResolver name fun resolver =>
    match Json.Value.parse? payload with
    | some payload => (.call (resolver.answer payload question), registers)
    | none => (.invalidPayload, registers)

def log (registers : Registers) : MappingStep → List Record
  | .path register name =>
    (Table.get? registers.mappings register).elim [] fun mapping => mapping.choiceLog name
  | .call name question payload =>
    (Table.get? registers.resolvers name).elim [] fun resolver =>
      (Json.Value.parse? payload).elim [] fun payload => resolver.answerLog payload question
  | _ => []

/-- The answers to a list of steps, each with the registers after it. -/
def runAll (registers : Registers) : List MappingStep → List (MappingAnswer × Registers)
  | [] => []
  | step :: rest =>
    let outcome := step.run registers
    outcome :: runAll outcome.2 rest

def logAll (registers : Registers) : List MappingStep → List Record
  | [] => []
  | step :: rest => step.log registers ++ logAll (step.run registers).2 rest

end MappingStep

end IdentityClaims
