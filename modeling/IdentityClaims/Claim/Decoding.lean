import IdentityClaims.Claim.UserClaims
import IdentityClaims.Mapping

/-!
# Decoding of written claim sets and mappings

The written forms of `UserClaims`, `ClaimMapping` and `IdentityConfig`. A record is written as an
object or as the array of its fields in declaration order. In an object, members the record does not
know are skipped with whatever they hold, and a known member must not repeat. In an array the last
fields may be missing. A mapping is an object of texts; in it a repeated key keeps its last value.
-/

namespace IdentityClaims

open Json

/-- The members with a known key, in their order. A known key must not repeat, and every key must
have characters. -/
def knownMembers? (known : List String) :
    List (RawText × Document) → Option (List (String × Document))
  | [] => some []
  | (none, _) :: _ => none
  | (some key, item) :: rest => do
    let others ← knownMembers? known rest
    if key ∉ known then return others
    else if key ∈ others.map Prod.fst then none
    else return (key, item) :: others

/-- The fields that occur in a written record, with their documents. -/
def Json.Document.fields? (known : List String) : Document → Option (List (String × Document))
  | .object members => knownMembers? known members
  | .array items => if items.length ≤ known.length then some (known.zip items) else none
  | _ => none

/-- A document read as a value of a kind; nothing is converted. -/
def Json.Document.claimValue? : ClaimKind → Document → Option ClaimValue
  | .boolean, .boolean b => some (.flag b)
  | .text, .text (some s) => some (.text s)
  | _, _ => none

namespace UserClaims

/-- The claim set with the field of a written one stored in it. -/
def decodeField? (claims : UserClaims) (field : String × Document) : Option UserClaims := do
  let claim ← Claim.ofField? field.1
  claims.store? claim (← field.2.claimValue? claim.kind)

/-- The claim set that a document writes; fields that do not occur keep their defaults. -/
def ofDocument? (document : Document) : Option UserClaims := do
  (← document.fields? (Claim.all.map Claim.field)).foldlM decodeField? {}

def parse? (text : String) : Option UserClaims :=
  (Document.parse? text).bind ofDocument?

end UserClaims

namespace Mapping

def pairs? : List (RawText × Document) → Option (List (String × String))
  | [] => some []
  | (some key, .text (some value)) :: rest => do return (key, value) :: (← pairs? rest)
  | _ => none

def ofDocument? : Document → Option Mapping
  | .object members => (pairs? members).map ofPairs
  | _ => none

def parse? (text : String) : Option Mapping :=
  (Document.parse? text).bind ofDocument?

/-- The mapping in a written configuration, whose one field is `mapping`. -/
def ofConfiguration? (document : Document) : Option Mapping := do
  match ← document.fields? ["mapping"] with
  | (_, mapping) :: _ => ofDocument? mapping
  | [] => return empty

/-- The mapping in a configuration that a text writes. -/
def parseConfiguration? (text : String) : Option Mapping :=
  (Document.parse? text).bind ofConfiguration?

def toJson (mapping : Mapping) : Value :=
  .object (mapping.entries.map fun entry => (entry.1, .string entry.2))

end Mapping

end IdentityClaims
