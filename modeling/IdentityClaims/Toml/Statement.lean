import IdentityClaims.Number.Double
import IdentityClaims.Toml.Moment

/-!
# TOML statements

A document is a list of statements: headers that open a table, and pairs that go into the table
opened last. What they build together is decided by whoever reads them.
-/

namespace IdentityClaims.Toml

/-- A dotted key; every part is the name of a member. -/
abbrev Key := List String

inductive Item where
  | text (value : String)
  | integer (value : Int)
  | float (value : Number.Double)
  | boolean (value : Bool)
  | moment (value : Moment)
  | array (items : List Item)
  | inlineTable (pairs : List (Key × Item))
  deriving Repr

namespace Item

mutual

/-- How many arrays and inline tables enclose the innermost part, itself included. -/
def depth : Item → Nat
  | .array items => itemsDepth items + 1
  | .inlineTable pairs => pairsDepth pairs + 1
  | _ => 0

def itemsDepth : List Item → Nat
  | [] => 0
  | item :: rest => max item.depth (itemsDepth rest)

def pairsDepth : List (Key × Item) → Nat
  | [] => 0
  | (_, item) :: rest => max item.depth (pairsDepth rest)

end

def maxDepth : Nat := 80

end Item

inductive Statement where
  /-- Opens a table. -/
  | table (key : Key)
  /-- Opens a new table at the end of an array of tables. -/
  | arrayTable (key : Key)
  | pair (key : Key) (item : Item)
  deriving Repr

end IdentityClaims.Toml
