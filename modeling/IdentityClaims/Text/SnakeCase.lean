import IdentityClaims.Text.Uppercase

/-!
# Snake case

The key a logical name stands for by default (`to_snake_case`): every uppercase character is
lowered, and every one but a first character is set off by an underscore. Acronyms are not special,
so `ID` becomes `i_d`.
-/

namespace IdentityClaims.Text

/-- A character after the first one: an uppercase character brings its underscore along. -/
def snakeInner (c : Char) : List Char :=
  if isUppercase c then '_' :: lowercase c else [c]

/-- Snake case of a list of characters. Only the first character is exempt from underscores. -/
def snakeChars : List Char → List Char
  | [] => []
  | c :: rest => lowercase c ++ rest.flatMap snakeInner

/-- Snake case of a name (`to_snake_case`). -/
def snakeCase (name : String) : String :=
  String.ofList (snakeChars name.toList)

end IdentityClaims.Text
