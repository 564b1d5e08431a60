import IdentityClaims.ErrorEnum.Attribute
import IdentityClaims.ErrorEnum.Expression

/-!
# Statements

The content of a block: bindings, items, calls by name and expressions. An expression needs a
semicolon behind it unless it stands last or ends on its own.
-/

namespace IdentityClaims.ErrorEnum

open Reading

structure StatementText where
  tokens : List Token
  /-- Only the end of the block may follow. -/
  isLast : Bool
  deriving DecidableEq, Repr

/-- Whether an expression of a form needs a semicolon behind it. -/
def ExpressionForm.needsSemicolon : ExpressionForm → Bool
  | .block | .invocation true => false
  | _ => true

namespace Grammar

/-- A binding of the names of a pattern. A block for the case that the pattern does not fit may
follow the value, unless that ends in a brace. -/
def localBinding (g : Grammar) : Reading (List Token) := do
  let keyword ← word "let"
  let pattern := (← g.pattern).tokens
  let type ← if ← seesSymbol ":" then do
      let colon ← symbol ":"
      pure (colon ++ (← typeTokens g true))
    else pure []
  let equals ← optionalSymbol "="
  let value ← onlyIf (!equals.isEmpty) (value g)
  let braced := value.getLast? == some (.closing .brace)
  let otherwise ← if !equals.isEmpty && !braced && (← seesWord "else") then do
      let keyword ← word "else"
      pure (keyword ++ (← block g))
    else pure []
  return keyword ++ pattern ++ type ++ equals ++ value ++ otherwise ++ (← symbol ";")

def startsItem : Lookahead :=
  let words := ["pub", "extern", "use", "fn", "mod", "type", "struct", "enum", "trait", "impl",
    "macro"]
  let root := Lookahead.both (.word "crate") (.not (.second (.symbol "::")))
  let static := Lookahead.both (.word "static") (.second (.either (.word "mut") .name))
  let function := Lookahead.oneOf ["unsafe", "extern", "fn"]
  let asyncClosure := Lookahead.both (.second (.word "async")) (.not (.third function))
  let notConstant := Lookahead.either asyncClosure
    (.second (.either (.either (.opening .brace) (.symbol "|")) (.oneOf ["static", "move"])))
  let constant := Lookahead.both (.word "const") (.not notConstant)
  let unsafeItem := Lookahead.both (.word "unsafe") (.not (.second (.opening .brace)))
  let asyncFunction := Lookahead.both (.word "async") (.second function)
  let union := Lookahead.both (.word "union") (.second .name)
  let autoTrait := Lookahead.both (.word "auto") (.second (.word "trait"))
  let defaultImpl := Lookahead.both (.word "default") (.second (.oneOf ["unsafe", "impl"]))
  .either (.either (.either (.oneOf words) root) (.either static constant))
    (.either (.either unsafeItem asyncFunction) (.either union (.either autoTrait defaultImpl)))

/-- A test of what stands behind a path without arguments. -/
def behindPath (look : Lookahead) : Lookahead := fun tokens =>
  match plainPath.run tokens with
  | some (_, rest) => look rest
  | none => false

/-- Whether a call by name comes next that defines something of another name. -/
def startsNamedCall : Lookahead :=
  behindPath (.both (.symbol "!") (.second (.either .name (.word "try"))))

/-- Whether a call by name with braces comes next that is a statement on its own. -/
def startsBracedCall : Lookahead :=
  behindPath (.both (.symbol "!") (.both (.second (.opening .brace))
    (.not (.third (.either .point (.symbol "?"))))))

def expressionStatement (g : Grammar) (attributes : List Token) : Reading StatementText := do
  let text ← standaloneText g
  let marked := if text.startsWritten then text.tokens else attributes ++ text.tokens
  let semicolon ← optionalSymbol ";"
  return ⟨marked ++ semicolon, semicolon.isEmpty && text.form.needsSemicolon⟩

def statement (g : Grammar) : Reading StatementText := do
  let ahead ← beyond g.attributes
  if startsNamedCall ahead then return ⟨← g.item, false⟩
  if startsBracedCall ahead then
    let attributes ← g.attributes
    let path ← plainPath
    let bang ← symbol "!"
    let content ← anyGroup
    return ⟨attributes ++ path.tokens ++ bang ++ content ++ (← optionalSymbol ";"), false⟩
  if startsItem ahead then return ⟨← g.item, false⟩
  let attributes ← g.attributes
  if ← seesWord "let" then return ⟨attributes ++ (← localBinding g), false⟩
  expressionStatement g attributes

/-- The statements up to a closing brace. Semicolons may stand alone. -/
def statementsUpTo (g : Grammar) : Nat → Reading (List Token)
  | 0 => failure
  | fuel + 1 => do
    if ← seesClosing then return []
    if ← seesSymbol ";" then return (← symbol ";") ++ (← statementsUpTo g fuel)
    let first ← statement g
    if first.isLast && !(← seesClosing) then failure
    return first.tokens ++ (← statementsUpTo g fuel)

def statementTokens (g : Grammar) : Reading (List Token) := fueled (statementsUpTo g)

end Grammar

end IdentityClaims.ErrorEnum
