import IdentityClaims.Record
import IdentityClaims.Table
import IdentityClaims.Text.SnakeCase

/-!
# Claim mappings

A mapping configures, for some logical names, the path a claim is read from (`ClaimMapping`). It is
a finite map: every name has at most one entry. An entry with an empty path counts as not
configured.
-/

namespace IdentityClaims

/-- Paths by logical name. -/
structure Mapping where
  entries : Table String
  distinct : (Table.keys entries).Nodup
  deriving Repr

/-- The path chosen for a logical name, and whether it was configured. -/
structure PathChoice where
  path : String
  configured : Bool
  deriving DecidableEq, Repr

namespace Mapping

def empty : Mapping := ⟨[], List.nodup_nil⟩

instance : Inhabited Mapping := ⟨empty⟩

/-- Collects pairs; of two pairs with one name the later wins. -/
def ofPairs (pairs : List (String × String)) : Mapping :=
  ⟨Table.ofPairs pairs, Table.nodup_keys_ofPairs pairs⟩

def get? (mapping : Mapping) (name : String) : Option String :=
  Table.get? mapping.entries name

def insert (mapping : Mapping) (name path : String) : Mapping :=
  ⟨Table.put name path mapping.entries, Table.nodup_keys_put _ _ _ mapping.distinct⟩

def erase (mapping : Mapping) (name : String) : Mapping :=
  ⟨Table.drop name mapping.entries, Table.nodup_keys_drop _ _ mapping.distinct⟩

def size (mapping : Mapping) : Nat :=
  mapping.entries.length

/-- Whether two mappings hold the same entries, in whatever order. -/
def same (a b : Mapping) : Bool :=
  a.size == b.size && a.entries.all fun entry => b.get? entry.1 == some entry.2

/-- The path for a logical name (`get_mapping_field`): a non-empty entry as it stands, or else
the name in snake case. An entry is not checked for being a path. -/
def choose (mapping : Mapping) (name : String) : PathChoice :=
  match mapping.get? name with
  | none => ⟨Text.snakeCase name, false⟩
  | some path => if path = "" then ⟨Text.snakeCase name, false⟩ else ⟨path, true⟩

/-- The record of a choice; only a configured path is worth one. -/
def choiceLog (mapping : Mapping) (name : String) : List Record :=
  let choice := mapping.choose name
  if choice.configured then [.configuredPath name choice.path] else []

end Mapping

end IdentityClaims
