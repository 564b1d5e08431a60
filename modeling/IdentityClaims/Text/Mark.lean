/-!
# Byte order marks

A file may begin with a mark that tells how its text is encoded and is no part of the text.
-/

namespace IdentityClaims.Text

/-- The characters of a text but a byte order mark in front. -/
def withoutMark : List Char → List Char
  | '\ufeff' :: rest => rest
  | cs => cs

end IdentityClaims.Text
