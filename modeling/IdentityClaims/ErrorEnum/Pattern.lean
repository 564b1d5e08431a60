import IdentityClaims.ErrorEnum.Member

/-!
# Patterns

A pattern is a constant, a range, a binding or a structure of patterns. A range of constants that
is written with three points is given the symbol of two points and an equals sign.
-/

namespace IdentityClaims.ErrorEnum.Grammar

open Reading

/-! ## Alternatives -/

def alternatives (g : Grammar) : Nat → Reading (List Token)
  | 0 => failure
  | fuel + 1 => do
    if ← sees (.apart "|" ["||", "|="]) then
      let bar ← symbol "|"
      let next ← g.pattern
      return bar ++ next.tokens ++ (← alternatives g fuel)
    else return []

/-- A pattern with its alternatives, in front of which a bar may stand. -/
def patterns (g : Grammar) : Reading PatternText := do
  let bar ← optionalSymbol "|"
  let first ← g.pattern
  let others ← fueled (alternatives g)
  if bar.isEmpty && others.isEmpty then return first
  else return ⟨bar ++ first.tokens ++ others, .other⟩

def patternTokens (g : Grammar) : Reading (List Token) := do
  return (← patterns g).tokens

/-! ## Ranges -/

/-- The symbol of a range, and whether the range includes its end. -/
def rangeSymbol : Reading (List Token × Bool) := do
  if ← seesSymbol "..=" then return (← symbol "..=", true)
  if ← seesSymbol "..." then
    let _ ← symbol "..."
    return (symbolTokens "..=".toList, true)
  return (← symbol "..", false)

def endsRangePattern : Lookahead :=
  .either (.either .closing (.word "if")) (.either (.symbols ["|", "=", ",", ";"]) .colon)

/-- The words and symbols that a path may start with. -/
def startsAnyPath : Lookahead :=
  .either .name (.either (.oneOf ["self", "Self", "super", "crate"]) (.symbols ["::", "<"]))

/-- An end of a range: a literal, a path or a constant in braces. -/
def rangeEnd (g : Grammar) : Reading (List Token) := do
  if ← sees .literal then literal
  else if ← sees startsAnyPath then return (← anyPath g true).tokens
  else return (← word "const") ++ (← body g)

/-- A range after its start, which may be missing. -/
def rangePattern (g : Grammar) (start : List Token) : Reading PatternText := do
  let (dots, inclusive) ← rangeSymbol
  if ← sees endsRangePattern then
    if inclusive then failure else return ⟨start ++ dots, .halfOpen⟩
  else
    let last ← rangeEnd g
    return ⟨start ++ dots ++ last, if start.isEmpty then .halfOpen else .other⟩

/-- A literal or a constant in braces, on its own or as the start of a range. -/
def constantPattern (g : Grammar) : Reading PatternText := do
  let start ← rangeEnd g
  if ← seesSymbol ".." then rangePattern g start else return ⟨start, .other⟩

/-- What stands for the rest, or a range without a start. -/
def openPattern (g : Grammar) : Reading PatternText := do
  if ← sees (.both (.apart ".." ["..=", "..."]) (.third endsRangePattern)) then
    return ⟨← symbol "..", .other⟩
  else if ← seesSymbol "..." then failure
  else rangePattern g []

/-! ## Structures -/

/-- The pattern of a field. A name stands for a binding of that name. -/
def fieldPattern (g : Grammar) : Reading (List Token) := do
  if ← seesWord "box" then
    return ← asWritten do
      let _ ← word "box"
      let _ ← optionalWord "ref"
      let _ ← optionalWord "mut"
      name
  let reference ← optionalWord "ref"
  let access ← optionalWord "mut"
  if !reference.isEmpty || !access.isEmpty then
    return reference ++ access ++ [.name (← name)]
  let (field, named) ← member
  if named && !(← seesSymbol ":") then return field
  let colon ← symbol ":"
  return field ++ colon ++ (← patternTokens g)

/-- The fields of a structure, of which the rest may be left out at the end. -/
def fieldPatterns (g : Grammar) : Nat → Reading (List Token)
  | 0 => failure
  | fuel + 1 => do
    if ← seesClosing then return []
    let attributes ← g.attributes
    if ← seesSymbol ".." then return attributes ++ (← symbol "..")
    let first ← fieldPattern g
    if ← seesClosing then return attributes ++ first
    let comma ← symbol ","
    return attributes ++ first ++ comma ++ (← fieldPatterns g fuel)

/-- A path, and what it is the name of: a constant, a structure, a range or a call by name. -/
def pathPattern (g : Grammar) : Reading PatternText := do
  let path ← anyPath g true
  if path.plain && (← sees .bang) then
    let bang ← symbol "!"
    return ⟨path.tokens ++ bang ++ (← anyGroup), .other⟩
  if ← seesOpening .brace then
    return ⟨path.tokens ++ (← group .brace (fueled (fieldPatterns g))), .other⟩
  if ← seesOpening .paren then
    return ⟨path.tokens ++ (← group .paren (list seesClosing (patternTokens g) ",")), .other⟩
  if ← seesSymbol ".." then return ← rangePattern g path.tokens
  return ⟨path.tokens, .other⟩

/-- A pattern in a slice. A range that lacks an end needs parentheses there. -/
def slicePattern (g : Grammar) : Reading (List Token) := do
  let pattern ← patterns g
  if pattern.form == .halfOpen then failure else return pattern.tokens

/-- A binding, which a pattern of its own may follow. -/
def binding (g : Grammar) : Reading (List Token) := do
  let reference ← optionalWord "ref"
  let access ← optionalWord "mut"
  let id ← if ← seesWord "self" then identifier else name
  let sign ← optionalSymbol "@"
  let inner ← if sign.isEmpty then pure [] else do pure (← g.pattern).tokens
  return reference ++ access ++ .name id :: sign ++ inner

/-! ## All patterns -/

/-- Whether a path comes next that is more than a binding. -/
def startsPathPattern : Lookahead :=
  let further := Lookahead.either (.symbols ["::", "!", ".."])
    (.either (.opening .brace) (.opening .paren))
  .either (.both .name (.second further))
    (.either (.both (.word "self") (.second (.symbol "::")))
      (.either (.symbols ["::", "<"]) (.oneOf ["Self", "super", "crate"])))

def patternText (g : Grammar) : Reading PatternText := do
  if ← sees startsPathPattern then return ← pathPattern g
  if ← seesWord "_" then return ⟨← word "_", .other⟩
  if ← seesWord "box" then
    let box : Reading Unit := do
      let _ ← word "box"
      let _ ← g.pattern
    return ⟨← asWritten box, .written⟩
  if ← sees (.either (.symbol "-") (.either .literal (.word "const"))) then
    return ← constantPattern g
  if ← sees (.either .name (.oneOf ["ref", "mut", "self"])) then return ⟨← binding g, .other⟩
  if ← seesSymbol "&" then
    let ampersand ← symbol "&"
    let access ← optionalWord "mut"
    return ⟨ampersand ++ access ++ (← g.pattern).tokens, .other⟩
  if ← seesOpening .paren then
    return ⟨← group .paren (list seesClosing (patternTokens g) ","), .other⟩
  if ← seesOpening .bracket then
    return ⟨← group .bracket (list seesClosing (slicePattern g) ","), .other⟩
  openPattern g

end IdentityClaims.ErrorEnum.Grammar
