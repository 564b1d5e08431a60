import IdentityClaims.ErrorEnum.Item
import IdentityClaims.ErrorEnum.Statement
import IdentityClaims.ErrorEnum.TypeText

/-!
# Items of a block or a module

Functions, constants, types, traits and their implementations, modules and imports. An item that
is meant for no program as it stands, such as a constant without a value, is kept as it is written.
-/

namespace IdentityClaims.ErrorEnum

open Reading

inductive ConditionPlace where
  | beforeDefinition | afterDefinition | either
  deriving DecidableEq, Repr

/-- The name of a type with its bounds, its conditions and what it is defined as. -/
structure TypeItemText where
  start : List Token
  bounded : Bool
  bounds : List Token
  conditions : List Token
  definition : List Token
  deriving DecidableEq, Repr

namespace Grammar

/-! ## Functions -/

/-- What stands behind a word, if that comes next. -/
def pastWord (text : String) (tokens : List Token) : List Token :=
  if Lookahead.word text tokens then tokens.tail else tokens

/-- Whether a function comes next, behind its visibility. It may be allowed to be marked as safe. -/
def startsFunction (safe : Bool) : Lookahead := fun tokens =>
  let tokens := pastWord "async" (pastWord "const" tokens)
  let tokens := pastWord (if safe && Lookahead.word "safe" tokens then "safe" else "unsafe") tokens
  let interface := Lookahead.word "extern" tokens
  let tokens := pastWord "extern" tokens
  Lookahead.word "fn" (if interface && Lookahead.quotation tokens then tokens.tail else tokens)

def receiver (g : Grammar) : Reading (List Token) := do
  if ← seesSymbol "&" then
    let ampersand ← symbol "&"
    let lifetimes ← onlyIf (← sees .lifetime) lifetime
    let access ← optionalWord "mut"
    return ampersand ++ lifetimes ++ access ++ (← word "self")
  let access ← optionalWord "mut"
  let self ← word "self"
  let colon ← optionalSymbol ":"
  return access ++ self ++ colon ++ (← onlyIf (!colon.isEmpty) (typeTokens g true))

/-- The mark of further parameters, which ends the list of them. -/
def furtherParameters : Reading (List Token) := do
  let dots ← symbol "..."
  if ← seesClosing then return dots else return dots ++ (← symbol ",")

/-- The parameters of a function. The first may be the receiver; one that is only a type with
arguments stands for a parameter without a name. -/
def functionParameters (g : Grammar) (first : Bool) : Nat → Reading (List Token)
  | 0 => failure
  | fuel + 1 => do
    if ← seesClosing then return []
    let attributes ← g.attributes
    if ← seesSymbol "..." then return attributes ++ (← furtherParameters)
    let rest (parameter : List Token) : Reading (List Token) := do
      if ← seesClosing then return attributes ++ parameter
      let comma ← symbol ","
      return attributes ++ parameter ++ comma ++ (← functionParameters g false fuel)
    match ← (some <$> receiver g <|> pure none) with
    | some tokens => if first then rest tokens else failure
    | none =>
      if ← sees (.both .name (.second (.symbol "<"))) then
        return ← rest (.word "_" :: .punct ':' false :: (← typeTokens g true))
      let pattern ← g.pattern
      let colon ← symbol ":"
      let label := pattern.tokens ++ colon
      if ← seesSymbol "..." then return attributes ++ label ++ (← furtherParameters)
      rest (label ++ (← typeTokens g true))

/-- The signature of a function. One that is marked as safe has no normal form. -/
def signature (g : Grammar) (safe : Bool) : Reading (Option (List Token)) := do
  let constness ← optionalWord "const"
  let asyncness ← optionalWord "async"
  let safety ← optionalWord "unsafe"
  let marked ← onlyIf (safe && safety.isEmpty) (optionalWord "safe")
  let interface ← abi
  let keyword ← word "fn"
  let id ← name
  let parameters ← generics g
  let inputs ← group .paren (fueled (functionParameters g true))
  let output ← if ← seesSymbol "->" then do
      let arrow ← symbol "->"
      pure (arrow ++ (← typeTokens g true))
    else pure []
  let conditions ← whereClause g
  let tokens := constness ++ asyncness ++ safety ++ interface ++ keyword ++ .name id ::
    parameters ++ inputs ++ output ++ conditions
  return if marked.isEmpty then some tokens else none

/-- A function with its body. Without one it has no normal form. -/
def function (g : Grammar) : Reading (Option (List Token)) := do
  let signature ← signature g false
  if ← seesSymbol ";" then
    let _ ← symbol ";"
    return none
  let body ← body g
  return signature.map (· ++ body)

/-! ## Constants and types -/

/-- Whether there are generic parameters or conditions on them, and the same read. -/
def present (reading : Reading (List Token)) (starts : Lookahead) : Reading Bool := do
  let present ← sees starts
  let _ ← reading
  return present

/-- A constant. With parameters it has no normal form, nor without a value where it needs one. -/
def constantItem (g : Grammar) (valued : Bool) : Reading (Option (List Token)) := do
  let keyword ← word "const"
  let id ← if ← seesWord "_" then identifier else name
  let parametric ← present (generics g) (.symbol "<")
  let colon ← symbol ":"
  let type ← typeTokens g true
  let equals ← optionalSymbol "="
  let value ← onlyIf (!equals.isEmpty) (value g)
  let conditional ← present (whereClause g) (.word "where")
  let semicolon ← symbol ";"
  if parametric || conditional || (valued && equals.isEmpty) then return none
  return some (keyword ++ .name id :: colon ++ type ++ equals ++ value ++ semicolon)

/-- A variable of the program. Without a type or a value it has no normal form. -/
def staticItem (g : Grammar) : Reading (Option (List Token)) := do
  let keyword ← word "static"
  let access ← optionalWord "mut"
  let id ← name
  let colon ← optionalSymbol ":"
  let type ← onlyIf (!colon.isEmpty) (typeTokens g true)
  let equals ← optionalSymbol "="
  let value ← onlyIf (!equals.isEmpty) (value g)
  let semicolon ← symbol ";"
  if colon.isEmpty && equals.isEmpty then failure
  if colon.isEmpty || equals.isEmpty then return none
  return some (keyword ++ access ++ .name id :: colon ++ type ++ equals ++ value ++ semicolon)

/-- A type that may have bounds and a definition, up to its semicolon. -/
def typeItem (g : Grammar) (place : ConditionPlace) : Reading TypeItemText := do
  let keyword ← word "type"
  let id ← name
  let parameters ← generics g
  let bounded ← seesSymbol ":"
  let bounds ← colonBounds g .onParameter (sees (.either (.word "where") (.symbols ["=", ";"])))
  let early := place != .afterDefinition && (← seesWord "where")
  let before ← onlyIf early (whereClause g)
  let equals ← optionalSymbol "="
  let type ← onlyIf (!equals.isEmpty) (typeTokens g true)
  let after ← onlyIf (place != .beforeDefinition && !early) (whereClause g)
  let _ ← symbol ";"
  return ⟨keyword ++ .name id :: parameters, bounded, bounds, before ++ after, equals ++ type⟩

/-- A type with another name. With bounds, or without a definition, it has no normal form. -/
def aliasItem (g : Grammar) : Reading (Option (List Token)) := do
  let item ← typeItem g .beforeDefinition
  if item.bounded || item.definition.isEmpty then return none
  return some (item.start ++ item.conditions ++ item.definition ++ [.punct ';' false])

/-! ## Calls by name -/

/-- Whether a call by name may come next, where an item is expected. -/
def startsCall : Lookahead :=
  .either (.either .name (.symbol "::")) (.oneOf ["self", "super", "crate"])

/-- A call by name in place of an item, which may define something of another name. A semicolon
ends it unless it ends in a brace. -/
def callItem (naming : Bool) : Reading (List Token) := do
  let path ← plainPath
  let bang ← symbol "!"
  let named ← sees (.either .name (.word "try"))
  let target ← onlyIf (naming && named) do return [.name (← identifier)]
  let braced ← seesOpening .brace
  let content ← anyGroup
  return path.tokens ++ bang ++ target ++ content ++ (← onlyIf (!braced) (symbol ";"))

/-- A definition of what calls by name stand for. It has no normal form. -/
def callDefinition : Reading (Option (List Token)) := do
  let _ ← word "macro"
  let _ ← name
  let _ ← onlyIf (← seesOpening .paren) anyGroup
  let _ ← group .brace verbatim
  return none

/-! ## Traits -/

/-- A member of a trait. Marks in front of it leave it without a normal form. -/
def traitMember (g : Grammar) : Reading (List Token) :=
  normalOrWritten do
    let attributes ← g.attributes
    let visibility ← visibility
    let defaultness ← optionalWord "default"
    let unmarked := visibility.isEmpty && defaultness.isEmpty
    let member : Option (List Token) ←
      if ← sees (startsFunction false) then do
        let signature ← signature g false
        let body ← if ← seesOpening .brace then body g else symbol ";"
        pure (signature.map (· ++ body))
      else if ← seesWord "const" then constantItem g false
      else if ← seesWord "type" then do
        let item ← typeItem g .afterDefinition
        pure (some (item.start ++ item.bounds ++ item.definition ++ item.conditions ++
          [.punct ';' false]))
      else if unmarked && (← sees startsCall) then do pure (some (← callItem false))
      else failure
    return if unmarked then member.map (attributes ++ ·) else none

/-- A trait behind its name: the traits it extends, its conditions and its members. -/
def traitRest (g : Grammar) : Reading (List Token) := do
  let bounds ← colonBounds g .onParameter (sees (.either (.word "where") (.opening .brace)))
  let conditions ← whereClause g
  let members ← group .brace do return (← g.innerAttributes) ++ (← many (traitMember g))
  return bounds ++ conditions ++ members

def traitAlias (g : Grammar) : Reading (List Token) := do
  let equals ← symbol "="
  let bounds ← sum (sees (.either (.word "where") (.symbol ";"))) (boundTokens g .onObject)
  let conditions ← whereClause g
  return equals ++ bounds ++ conditions ++ (← symbol ";")

/-- A trait, or a name for several of them. -/
def traitItem (g : Grammar) : Reading (List Token) := do
  let safety ← optionalWord "unsafe"
  let auto ← optionalWord "auto"
  let keyword ← word "trait"
  let id ← name
  let parameters ← generics g
  let start := safety ++ auto ++ keyword ++ .name id :: parameters
  if safety.isEmpty && auto.isEmpty && (← seesSymbol "=") then
    return start ++ (← traitAlias g)
  else return start ++ (← traitRest g)

/-! ## Implementations -/

/-- Whether a mark as default comes next, and not a call by that name. -/
def startsDefault : Lookahead :=
  .both (.word "default") (.not (.second (.symbol "!")))

def implementationMember (g : Grammar) : Reading (List Token) :=
  normalOrWritten do
    let attributes ← g.attributes
    let ahead ← beyond visibility
    let ahead := if startsDefault ahead then ahead.tail else ahead
    let marked : Reading (List Token) := do return (← visibility) ++ (← optionalWord "default")
    if startsFunction false ahead then
      let marks ← marked
      return (← function g).map (attributes ++ marks ++ ·)
    if Lookahead.word "const" ahead then
      let marks ← marked
      return (← constantItem g true).map (attributes ++ marks ++ ·)
    if Lookahead.word "type" ahead then
      let marks ← marked
      let item ← typeItem g .afterDefinition
      if item.bounded || item.definition.isEmpty then return none
      return some (attributes ++ marks ++ item.start ++ item.definition ++ item.conditions ++
        [.punct ';' false])
    if ← sees startsCall then return some (attributes ++ (← callItem false))
    failure

/-- The trait and the type of an implementation. Something else than a path for the trait has no
normal form; a type behind the mark of a negative implementation is kept as it is written. -/
def implementationTarget (g : Grammar) : Reading (Option (List Token)) := do
  let before ← get
  let negative ← sees (.both (.symbol "!") (.not (.second (.opening .brace))))
  let polarity ← onlyIf negative (symbol "!")
  let first ← g.type true
  if ← seesWord "for" then
    let keyword ← word "for"
    let self ← typeTokens g true
    match first.shape with
    | .name | .path => return some (polarity ++ first.tokens ++ keyword ++ self)
    | _ => return none
  else if negative then return some (← writtenSince before)
  else return some first.tokens

/-- An implementation. With a visibility or on constants it has no normal form. -/
def implementation (g : Grammar) : Reading (Option (List Token)) := do
  let visibility ← visibility
  let defaultness ← optionalWord "default"
  let safety ← optionalWord "unsafe"
  let keyword ← word "impl"
  let parameters ← if ← sees .parameters then generics g else pure []
  let constness := Lookahead.either (.word "const")
    (.both (.symbol "?") (.second (.word "const")))
  let onConstants ← sees constness
  if onConstants then
    let _ ← optionalSymbol "?"
    let _ ← word "const"
  let target ← implementationTarget g
  let conditions ← whereClause g
  let members ← group .brace do return (← g.innerAttributes) ++ (← many (implementationMember g))
  if !visibility.isEmpty || onConstants then return none
  return target.map fun target =>
    defaultness ++ safety ++ keyword ++ parameters ++ target ++ conditions ++ members

/-! ## Foreign items -/

/-- A variable that another program defines. Only an unmarked one without a value has a normal
form. -/
def foreignStatic (g : Grammar) : Reading (Option (List Token)) := do
  let safety ← optionalWord "unsafe"
  let marked ← onlyIf safety.isEmpty (optionalWord "safe")
  let keyword ← word "static"
  let access ← optionalWord "mut"
  let id ← name
  let colon ← symbol ":"
  let type ← typeTokens g true
  let equals ← optionalSymbol "="
  let _ ← onlyIf (!equals.isEmpty) (value g)
  let semicolon ← symbol ";"
  if !safety.isEmpty || !marked.isEmpty || !equals.isEmpty then return none
  return some (keyword ++ access ++ .name id :: colon ++ type ++ semicolon)

/-- A function that another program defines. With a body it has no normal form. -/
def foreignFunction (g : Grammar) : Reading (Option (List Token)) := do
  let signature ← signature g true
  if ← seesOpening .brace then
    let _ ← body g
    return none
  let semicolon ← symbol ";"
  return signature.map (· ++ semicolon)

def foreignMember (g : Grammar) : Reading (List Token) :=
  normalOrWritten do
    let attributes ← g.attributes
    let ahead ← beyond visibility
    let static := Lookahead.either (.word "static")
      (.both (.oneOf ["unsafe", "safe"]) (.second (.word "static")))
    if startsFunction true ahead then
      let visibility ← visibility
      return (← foreignFunction g).map (attributes ++ visibility ++ ·)
    if static ahead then
      let visibility ← visibility
      return (← foreignStatic g).map (attributes ++ visibility ++ ·)
    if Lookahead.word "type" ahead then
      let visibility ← visibility
      let item ← typeItem g .either
      if item.bounded || !item.definition.isEmpty then return none
      return some (attributes ++ visibility ++ item.start ++ item.conditions ++ [.punct ';' false])
    if ← sees startsCall then return some (attributes ++ (← callItem false))
    failure

def foreignModule (g : Grammar) : Reading (List Token) := do
  let safety ← optionalWord "unsafe"
  if !(← seesWord "extern") then failure
  let interface ← abi
  let members ← group .brace do return (← g.innerAttributes) ++ (← many (foreignMember g))
  return safety ++ interface ++ members

/-! ## Modules and imports -/

/-- A module with its items, or only its name. -/
def moduleItem (g : Grammar) : Reading (List Token) := do
  let safety ← optionalWord "unsafe"
  let keyword ← word "mod"
  let id ← if ← seesWord "try" then identifier else name
  let content ← if ← seesOpening .brace then
      group .brace do return (← g.innerAttributes) ++ (← many g.item)
    else symbol ";"
  return safety ++ keyword ++ .name id :: content

def renamed : Reading (List Token) := do
  let keyword ← word "as"
  let id ← if ← seesWord "_" then identifier else name
  return keyword ++ [.name id]

/-- What is imported. A separator in front is allowed where no path stands before it. -/
def importTree (rooted : Bool) : Nat → Reading (List Token)
  | 0 => failure
  | fuel + 1 => do
    if ← sees (.either .name (.oneOf ["self", "super", "crate", "try"])) then
      let id ← identifier
      if ← seesSymbol "::" then
        let separator ← symbol "::"
        return .name id :: separator ++ (← importTree false fuel)
      return .name id :: (← onlyIf (← seesWord "as") renamed)
    if ← seesSymbol "*" then return ← symbol "*"
    let branch : Reading (List Token) := do
      let separator ← onlyIf rooted (optionalSymbol "::")
      return separator ++ (← importTree (rooted && separator.isEmpty) fuel)
    group .brace (list seesClosing branch ",")

def importItem : Reading (List Token) := do
  let keyword ← word "use"
  let separator ← optionalSymbol "::"
  let tree ← fueled (importTree separator.isEmpty)
  return keyword ++ separator ++ tree ++ (← symbol ";")

def programImport : Reading (List Token) := do
  let keyword ← word "extern"
  let kind ← word "crate"
  let id ← if ← seesWord "self" then identifier else name
  let rename ← onlyIf (← seesWord "as") renamed
  return keyword ++ kind ++ .name id :: rename ++ (← symbol ";")

/-! ## All items -/

/-- An item whose form its first words tell, behind its visibility. -/
def keywordItem (g : Grammar) (visibility : List Token) : Reading (Option (List Token)) := do
  if ← sees (startsFunction false) then return ← function g
  if ← sees (.both (.word "extern") (.second (.word "crate"))) then
    return some (← programImport)
  if ← seesWord "use" then return some (← importItem)
  if ← seesWord "static" then return ← staticItem g
  if ← seesWord "const" then return ← constantItem g true
  let kind := Lookahead.either
    (fun tokens => Lookahead.word "mod" (pastWord "unsafe" tokens)) (.word "mod")
  if ← sees kind then return some (← moduleItem g)
  if ← seesWord "type" then return ← aliasItem g
  if ← seesWord "struct" then return some (← structTokens g)
  if ← seesWord "enum" then return some (← enumeration g [] []).tokens
  if ← sees (.both (.word "union") (.second .name)) then return some (← unionTokens g)
  let trait : Lookahead := fun tokens =>
    let tokens := pastWord "unsafe" tokens
    Lookahead.word "trait" tokens ||
      Lookahead.both (.word "auto") (.second (.word "trait")) tokens
  if ← sees trait then return some (← traitItem g)
  if ← seesWord "macro" then return ← callDefinition
  if visibility.isEmpty && (← sees startsCall) then return some (← callItem true)
  failure

def startsImplementation : Lookahead :=
  .either (.either (.word "impl") startsDefault) (.both (.word "unsafe") (.second (.word "impl")))

def startsForeignModule : Lookahead :=
  let block := Lookahead.either (.second (.opening .brace))
    (.both (.second .quotation) (.third (.opening .brace)))
  .either (.both (.word "extern") block) (.both (.word "unsafe") (.second (.word "extern")))

def itemTokens (g : Grammar) : Reading (List Token) :=
  normalOrWritten do
    let attributes ← g.attributes
    let ahead ← beyond visibility
    if startsFunction false ahead then
      let visibility ← visibility
      return (← function g).map (attributes ++ visibility ++ ·)
    if startsImplementation ahead then return (← implementation g).map (attributes ++ ·)
    if startsForeignModule ahead then return some (attributes ++ (← foreignModule g))
    let visibility ← visibility
    return (← keywordItem g visibility).map (attributes ++ visibility ++ ·)

end Grammar

end IdentityClaims.ErrorEnum
