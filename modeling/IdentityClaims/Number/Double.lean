import IdentityClaims.Number.Shortest

/-!
# 64-bit doubles

All doubles, those included that are no real number, and their texts.
-/

namespace IdentityClaims.Number

inductive Double where
  | finite (value : Binary64)
  | infinite (negative : Bool)
  | notANumber
  deriving DecidableEq, Repr

/-- The text of a double: its shortest positional digits, or a word for what has no digits. -/
def Double.text : Double → List Char
  | .finite x => x.text
  | .infinite false => "inf".toList
  | .infinite true => "-inf".toList
  | .notANumber => "NaN".toList

end IdentityClaims.Number
