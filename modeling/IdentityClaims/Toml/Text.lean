import IdentityClaims.Json.Token
import IdentityClaims.Text.Blank

/-!
# TOML texts

A text stands between quotes, one or three on each side. Between double quotes a backslash
starts an escape; between single ones every character stands for itself. Only a text in triple
quotes may hold line breaks, which it keeps as they are written.
-/

namespace IdentityClaims.Toml

/-- The quote that lets a backslash start an escape. -/
def basicQuote : Char := '"'

/-- The quote between which every character stands for itself. -/
def literalQuote : Char := '\''

/-- The characters before the closing quote, and what follows it. An escaped quote does not
close. -/
def quotedBody? (quote : Char) : List Char → Option (List Char × List Char)
  | [] => none
  | [c] => if c = quote then some ([], []) else none
  | c :: d :: rest =>
    if c = quote then some ([], d :: rest)
    else if c = '\\' ∧ quote = basicQuote then
      (quotedBody? quote rest).map fun (body, after) => (c :: d :: body, after)
    else (quotedBody? quote (d :: rest)).map fun (body, after) => (c :: body, after)

/-- The characters before the three closing quotes, and what follows them. Of more than three
quotes in a row the first two belong to the body at most. -/
def tripleQuotedBody? (quote : Char) : List Char → Option (List Char × List Char)
  | [] => none
  | [_] => none
  | c :: d :: rest =>
    let run := ((c :: d :: rest).takeWhile (· = quote)).length
    if run ≥ 3 then
      let extra := min (run - 3) 2
      some (List.replicate extra quote, (c :: d :: rest).drop (extra + 3))
    else if c = '\\' ∧ quote = basicQuote then
      (tripleQuotedBody? quote rest).map fun (body, after) => (c :: d :: body, after)
    else (tripleQuotedBody? quote (d :: rest)).map fun (body, after) => (c :: body, after)

/-- The character whose code point some hexadecimal digits write. -/
def codePoint? (digits : List Char) : Option Char := do
  let code := (← digits.mapM Json.hexValue?).foldl (fun n digit => n * 16 + digit) 0
  if code.isValidChar then return Char.ofNat code else none

def letterEscape? : Char → Option Char
  | 'b' => some (Char.ofNat 8)
  | 't' => some '\t'
  | 'n' => some '\n'
  | 'f' => some (Char.ofNat 12)
  | 'r' => some '\r'
  | 'e' => some (Char.ofNat 27)
  | '"' => some '"'
  | '\\' => some '\\'
  | _ => none

/-- The characters after a line break in front, if there is one. -/
def afterLineBreak? : List Char → Option (List Char)
  | '\n' :: rest => some rest
  | '\r' :: '\n' :: rest => some rest
  | _ => none

/-- Whether nothing but blanks comes before the next line break. -/
def endsLine (cs : List Char) : Bool :=
  (afterLineBreak? (cs.dropWhile Text.isBlank)).isSome

/-- The characters that a body with escapes stands for. A backslash at the end of a line takes
away all blanks and line breaks up to the next character; `skipping` holds right after one. -/
def unescape? (skipping : Bool) : List Char → Option (List Char)
  | [] => some []
  | '\\' :: 'x' :: a :: b :: rest => do
    return (← codePoint? [a, b]) :: (← unescape? false rest)
  | '\\' :: 'u' :: a :: b :: c :: d :: rest => do
    return (← codePoint? [a, b, c, d]) :: (← unescape? false rest)
  | '\\' :: 'U' :: a :: b :: c :: d :: e :: f :: g :: h :: rest => do
    return (← codePoint? [a, b, c, d, e, f, g, h]) :: (← unescape? false rest)
  | '\\' :: e :: rest =>
    if endsLine (e :: rest) then unescape? true rest
    else do return (← letterEscape? e) :: (← unescape? false rest)
  | c :: rest =>
    if skipping && (Text.isBlank c || c == '\r' || c == '\n') then unescape? true rest
    else (unescape? false rest).map (c :: ·)

/-- The text that a body between quotes stands for. -/
def ofBody? (quote : Char) (body : List Char) : Option String :=
  (if quote = basicQuote then unescape? false body else some body).map String.ofList

/-- A text within a line, after its opening quote. -/
def lineText? (quote : Char) (cs : List Char) : Option (String × List Char) := do
  let (body, rest) ← quotedBody? quote cs
  if '\n' ∈ body then none
  return (← ofBody? quote body, rest)

/-- A text that may span lines, after its three opening quotes. A line break right after them
does not belong to it. -/
def spanningText? (quote : Char) (cs : List Char) : Option (String × List Char) := do
  let cs := (afterLineBreak? cs).getD cs
  let (body, rest) ← tripleQuotedBody? quote cs
  return (← ofBody? quote body, rest)

end IdentityClaims.Toml
