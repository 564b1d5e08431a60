import IdentityClaims.Configuration.KeyPath
import IdentityClaims.Setting

/-!
# Configuration trees

Settings from several sources are laid over one another in one tree, as `load_config` has them. A
table is merged into the place it is set at, member by member; anything else replaces what was
there. A place is made to exist on the way to it.
-/

namespace IdentityClaims.Configuration

/-- The members of a table; anything else has none. -/
def membersOf : Setting → List (String × Setting)
  | .table members => members
  | _ => []

/-- The items of an array; anything else has none. -/
def itemsOf : Setting → List Setting
  | .array items => items
  | _ => []

/-- Changes one member. A missing member counts as null, and what is no table becomes one. -/
def changeMember (name : String) (change : Setting → Setting) (tree : Setting) : Setting :=
  let members := membersOf tree
  .table (Table.put name (change ((Table.get? members name).getD .null)) members)

/-- Changes one item. Nulls are added behind the last item, or in front of the first one for an
index before it, until the item exists; what is no array becomes one. -/
def changeItem (index : Int) (change : Setting → Setting) (tree : Setting) : Setting :=
  let items := itemsOf tree
  if index < 0 then
    let fromEnd := index.natAbs
    let padded := List.replicate (fromEnd - items.length) Setting.null ++ items
    .array (padded.modify (padded.length - fromEnd) change)
  else
    let place := index.toNat
    .array ((items ++ List.replicate (place + 1 - items.length) Setting.null).modify place change)

def changeAt (change : Setting → Setting) : KeyPath → Setting → Setting
  | [], tree => change tree
  | .member name :: rest, tree => changeMember name (changeAt change rest) tree
  | .item index :: rest, tree => changeItem index (changeAt change rest) tree

mutual

/-- Lays a setting over what stands at its place. -/
def overlay : Setting → Setting → Setting
  | .table members, present =>
    overlayMembers members (match present with
      | .null => .table []
      | other => other)
  | setting, _ => setting

/-- Lays the members of a table over what stands at its place. Their names are not split. -/
def overlayMembers : List (String × Setting) → Setting → Setting
  | [], present => present
  | (name, setting) :: rest, present =>
    overlayMembers rest (changeMember name (overlay setting) present)

end

/-- The tree with a setting at the place of its key. -/
def set (tree : Setting) (setting : String × Setting) : Setting :=
  changeAt (overlay setting.2) (KeyPath.ofKey setting.1) tree

/-- The tree with settings laid over it, one after the other. -/
def setAll (tree : Setting) (settings : List (String × Setting)) : Setting :=
  settings.foldl set tree

end IdentityClaims.Configuration
