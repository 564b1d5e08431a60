import IdentityClaims.Setting
import IdentityClaims.Text.Pieces
import IdentityClaims.Text.Words

/-!
# Settings from the environment

What `load_config` lays over the file. A variable sets something when its name, in small letters,
starts with `claimmap__`. In the rest of the name two underscores lead one level down, and every
level is a name of words joined by single underscores. As names are in small letters, a key with a
capital is out of reach.
-/

namespace IdentityClaims.Configuration

abbrev Environment := List (String × String)

namespace Environment

def leadIn : List Char := "claimmap__".toList

/-- Writes a dot for every two underscores, from the left. -/
def dotted : List Char → List Char
  | '_' :: '_' :: rest => '.' :: dotted rest
  | c :: rest => c :: dotted rest
  | [] => []

/-- A key with every level of it in words joined by single underscores. -/
def tidied (key : List Char) : List Char :=
  let (first, others) := Text.splitChars '.' key
  List.intercalate ['.'] ((first :: others).map Text.underscored)

/-- The key that a variable sets, if it sets any. -/
def key? (name : String) : Option String :=
  let lowered := (Text.lowerText name).toList
  if leadIn.isPrefixOf lowered then
    some (String.ofList (tidied (dotted (lowered.drop leadIn.length))))
  else none

/-- The settings of an environment. Their values are texts, whatever they look like. -/
def settings (environment : Environment) : List (String × Setting) :=
  environment.filterMap fun (name, value) => (key? name).map (·, .text value)

end Environment

end IdentityClaims.Configuration
