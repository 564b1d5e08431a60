import IdentityClaims.Setting
import IdentityClaims.Toml.Document

/-!
# The table that a TOML document writes

Statements build a table one after the other. A member is written once: a pair never replaces
anything, a header opens a table that no header and no dotted key has opened before, and a dotted
key extends no table that a header of its own has opened.
-/

namespace IdentityClaims.Toml

inductive Opening where
  /-- A header of its own. -/
  | header
  /-- A header of a table inside it. -/
  | nestedHeader
  /-- A dotted key. -/
  | dottedKey
  deriving DecidableEq, Repr

/-- A member of a table that is being built. -/
inductive Node where
  /-- The item of a pair, which is closed. -/
  | item (value : Setting)
  | table (opening : Opening) (members : List (String × Node))
  /-- An array of tables, all opened by headers. -/
  | tables (items : List (List (String × Node)))
  deriving Repr

namespace Node

mutual

def value : Node → Setting
  | .item value => value
  | .table _ members => .table (memberValues members)
  | .tables items => .array (tableValues items)

def memberValues : List (String × Node) → List (String × Setting)
  | [] => []
  | (name, node) :: rest => (name, node.value) :: memberValues rest

def tableValues : List (List (String × Node)) → List Setting
  | [] => []
  | members :: rest => .table (memberValues members) :: tableValues rest

end

end Node

/-- The members of a table that is being built. -/
abbrev Members := Table Node

namespace Members

/-- Changes the table that a header names, where each name on the way opens what is missing and
an array of tables stands for its last one. -/
def within? (change : Members → Option Members) : Key → Members → Option Members
  | [], members => change members
  | name :: rest, members =>
    match Table.get? members name with
    | none => do return members.put name (.table .nestedHeader (← within? change rest []))
    | some (.table opening inner) => do
      return members.put name (.table opening (← within? change rest inner))
    | some (.tables items) => do
      let last ← items.getLast?
      return members.put name (.tables (items.dropLast ++ [← within? change rest last]))
    | some (.item _) => none

def openTable? (name : String) (members : Members) : Option Members :=
  match Table.get? members name with
  | none => some (members.put name (.table .header []))
  | some (.table .nestedHeader inner) => some (members.put name (.table .header inner))
  | some _ => none

def appendTable? (name : String) (members : Members) : Option Members :=
  match Table.get? members name with
  | none => some (members.put name (.tables [[]]))
  | some (.tables items) => some (members.put name (.tables (items ++ [[]])))
  | some _ => none

/-- Adds a pair, whose last name must be new. A dotted key takes over a table that only the
headers of tables inside it have opened. It passes through the last table of an array, but adds
nothing to that one itself. -/
def assign? (value : Setting) : Key → Members → Option Members
  | [], _ => none
  | [name], members =>
    match Table.get? members name with
    | none => some (members.put name (.item value))
    | some _ => none
  | name :: next :: rest, members =>
    match Table.get? members name with
    | none => do return members.put name (.table .dottedKey (← assign? value (next :: rest) []))
    | some (.table opening inner) =>
      if opening = .header then none
      else do return members.put name (.table .dottedKey (← assign? value (next :: rest) inner))
    | some (.tables items) =>
      if rest = [] then none
      else do
        let last ← items.getLast?
        return members.put name
          (.tables (items.dropLast ++ [← assign? value (next :: rest) last]))
    | some (.item _) => none

end Members

namespace Item

mutual

/-- The value of an item; that of a date or time is its text. -/
def value? : Item → Option Setting
  | .text s => some (.text s)
  | .integer n => some (.integer n)
  | .float x => some (.float x)
  | .boolean b => some (.boolean b)
  | .moment m => some (.text m.text)
  | .array items => (values? items).map .array
  | .inlineTable pairs =>
    (pairValues? [] pairs).map fun members => .table (Node.memberValues members)

def values? : List Item → Option (List Setting)
  | [] => some []
  | item :: rest => do return (← item.value?) :: (← values? rest)

/-- The members of an inline table, added to those before them. -/
def pairValues? (members : Members) : List (Key × Item) → Option Members
  | [] => some members
  | (key, item) :: rest => do
    let members ← members.assign? (← item.value?) key
    pairValues? members rest

end

end Item

/-- A table that is being built, and the header that pairs go under. -/
structure Draft where
  root : Members
  header : Key

namespace Draft

def extend? (draft : Draft) : Statement → Option Draft
  | .table key => do
    return ⟨← draft.root.within? (Members.openTable? (← key.getLast?)) key.dropLast, key⟩
  | .arrayTable key => do
    return ⟨← draft.root.within? (Members.appendTable? (← key.getLast?)) key.dropLast, key⟩
  | .pair key item => do
    let value ← item.value?
    return { draft with root := ← draft.root.within? (Members.assign? value key) draft.header }

end Draft

/-- The members of the table that a text writes. -/
def parse? (text : String) : Option (List (String × Setting)) := do
  let draft ← (← Statement.parseAll? text).foldlM Draft.extend? ⟨[], []⟩
  return Node.memberValues draft.root

end IdentityClaims.Toml
