import IdentityClaims.Contextual
import IdentityClaims.Proofs.Implementations

/-!
# What generated code does to errors

The code that an enum is expanded to, run on the errors of that enum. An error is a variant with
the texts of its fields. The arms of the trait write its context, the literals of the
implementations build it, and the format of its variant says what is displayed. Whatever enum is
expanded, a context on the failure of a source is one on the error that the source is converted
into. For the two error types in use the generated code does what their own operations do.
-/

namespace IdentityClaims.ErrorEnum

/-- An error: the name of its variant, and its fields. Only a context may be absent. -/
structure ErrorValue where
  variant : String
  fields : Table (Option String)
  deriving DecidableEq, Repr

/-- The text in a field, if there is one. -/
def ErrorValue.field? (error : ErrorValue) (name : String) : Option String :=
  (error.fields.get? name).join

/-! ## Arms and literals -/

/-- What the match of the trait leaves of an error: a first arm for its variant writes the context,
and the last arm does nothing. -/
def Expansion.assignContext (expansion : Expansion) (context : String) (error : ErrorValue) :
    ErrorValue :=
  if expansion.arms.any (·.variant.text == error.variant) then
    { error with fields := error.fields.put "context" (some context) }
  else error

/-- A text that a variable holds, borrowed or owned. -/
def heldText (form parameter : String) : List String :=
  words "std : : borrow : : Cow : :" ++ [form] ++ ["(", parameter, ")"]

/-- The value of a member, where the variable of an implementation holds a text and there may be a
context at hand. -/
def LiteralMember.eval? (parameter passed : String) (context : Option String)
    (member : LiteralMember) : Option (Option String) :=
  match member.value with
  | none => if member.name.spelling = parameter then some passed else none
  | some value =>
    if value = words "None" then some none
    else if value = words "Some ( context . into ( ) )" then context.map some
    else if value = heldText "Borrowed" parameter ∨ value = heldText "Owned" parameter then
      some passed
    else none

/-- The error that an implementation builds from a text. -/
def Implementation.build? (impl : Implementation) (passed : String) (context : Option String) :
    Option ErrorValue := do
  let fields ← impl.literal.members.mapM fun member => do
    return (member.name.text, ← member.eval? impl.parameter passed context)
  return ⟨impl.literal.variant.text, fields⟩

namespace Expansion

/-- The error that a value of a type is converted into. -/
def convert? (expansion : Expansion) (type : List String) (passed : String) :
    Option ErrorValue := do
  let impl ← expansion.implementations.find? fun impl =>
    impl.purpose == .conversion && impl.type == type
  impl.build? passed none

/-- The error that a failure of a type becomes under a context. -/
def contextOn? (expansion : Expansion) (type : List String) (passed context : String) :
    Option ErrorValue := do
  let impl ← expansion.implementations.find? fun impl =>
    impl.purpose == .context && impl.type == type
  impl.build? passed (some context)

end Expansion

namespace SourceImpl

variable (impl : SourceImpl)

theorem build?_conversion (passed : String) :
    impl.conversion.build? passed none =
      some ⟨impl.variant.text, [(impl.field.text, some passed), ("context", none)]⟩ := by
  simp [Implementation.build?, conversion, LiteralMember.eval?, contextMember, Identifier.plain]

theorem build?_contextual (passed context : String) :
    impl.contextual.build? passed (some context) =
      some ⟨impl.variant.text, [(impl.field.text, some passed), ("context", some context)]⟩ := by
  have other : words "Some ( context . into ( ) )" ≠ words "None" := by decide +kernel
  simp [Implementation.build?, contextual, LiteralMember.eval?, contextMember, other,
    Identifier.plain]

end SourceImpl

theorem build?_textConversion (conditions : List Attribute) (type : List String) {form : String}
    (known : form = "Borrowed" ∨ form = "Owned") (passed : String) :
    (textConversion conditions type form).build? passed none =
      some ⟨"Internal", [("message", some passed), ("context", none)]⟩ := by
  have message : LiteralMember.eval? "s" passed none
      ⟨.plain "message", some (words "std : : borrow : : Cow : :" ++ [form] ++ words "( s )")⟩ =
        some (some passed) := by
    rcases known with rfl | rfl <;> rfl
  simp only [Implementation.build?, textConversion, List.mapM_cons, List.mapM_nil, message]
  rfl

namespace Enumeration

variable {enumeration : Enumeration} {impl : SourceImpl}

/-- A variant with a source has an arm, since it has a context. -/
theorem exists_arm (admitted : ∀ variant ∈ enumeration.variants, variant.Admitted)
    (generated : impl ∈ enumeration.expansion.sources) :
    ∃ arm ∈ enumeration.expansion.arms, arm.variant = impl.variant := by
  obtain ⟨variant, member, made⟩ := List.mem_filterMap.mp generated
  unfold Variant.sourceImpl? VariantShape.sourceImpl? at made
  split at made
  · cases made
  · obtain ⟨source, found, rfl⟩ := Option.map_eq_some_iff.mp made
    have sourced : variant.HasSource := by
      rw [Variant.hasSource_iff]
      exact Option.isSome_map.symm.trans (Option.isSome_iff_exists.mpr ⟨source, found⟩)
    have context : variant.shape.hasContext :=
      Variant.hasContext_iff.mp ((admitted variant member).hasContext sourced)
    refine ⟨⟨variant.conditions, variant.name⟩, List.mem_filterMap.mpr ⟨variant, member, ?_⟩, rfl⟩
    rw [Variant.arm?, VariantShape.arm?, if_pos context]
    rfl

/-- Whatever enum is expanded, a context on the failure of a source is one on the error that the
source is converted into. -/
theorem contextual_eq_conversion {expansion : Expansion}
    (expanded : enumeration.expand = .ok expansion) (generated : impl ∈ expansion.sources)
    (apart : impl.field.text ≠ "context") (passed context : String) :
    impl.contextual.build? passed (some context) =
      (impl.conversion.build? passed none).map (expansion.assignContext context) := by
  obtain ⟨admitted, rfl⟩ := expand_eq_ok_iff.mp expanded
  obtain ⟨arm, present, same⟩ := exists_arm admitted generated
  have matched : enumeration.expansion.arms.any (·.variant.text == impl.variant.text) :=
    List.any_eq_true.mpr ⟨arm, present, by rw [same, beq_self_eq_true]⟩
  rw [SourceImpl.build?_contextual, SourceImpl.build?_conversion, Option.map_some,
    Expansion.assignContext, if_pos matched]
  simp [Table.put, apart]

end Enumeration

/-! ## Formats -/

/-- A format with texts in the place of the names in braces. Inside of braces the characters of the
name are at hand, the last one first. -/
def fill (value : String → String) : Option (List Char) → List Char → List Char
  | _, [] => []
  | none, c :: rest =>
    if c = '\x7b' then fill value (some []) rest else c :: fill value none rest
  | some name, c :: rest =>
    if c = '\x7d' then (value (String.ofList name.reverse)).toList ++ fill value none rest
    else fill value (some (c :: name)) rest

/-- The characters between the quotes of a literal. -/
def unquoted (literal : String) : List Char :=
  (literal.toList.drop 1).dropLast

/-- What the function `format_context` writes for a context, by the literals in it. -/
def formatContext : Option String → String
  | none => String.ofList (unquoted absentLiteral)
  | some context => String.ofList (fill (fun _ => context) none (unquoted presentLiteral))

/-- What stands for the place without a name. -/
def unnamedArgument (arguments : List Token) (error : ErrorValue) : String :=
  if texts arguments = words ", format_context ( . context )" then
    formatContext (error.field? "context")
  else ""

/-- The text of an error by the format that its variant declares. -/
def Variant.display? (variant : Variant) (error : ErrorValue) : Option String :=
  match variant.attributes.find? (·.isWord "error") with
  | some ⟨_, .list .paren (.literal format :: arguments)⟩ =>
    let value (name : String) : String :=
      if name = "" then unnamedArgument arguments error else (error.field? name).getD ""
    some (String.ofList (fill value none (unquoted format)))
  | _ => none

def Enumeration.display? (enumeration : Enumeration) (error : ErrorValue) : Option String := do
  let variant ← enumeration.variants.find? (·.name.text == error.variant)
  variant.display? error

section Filling

variable (value : String → String)

theorem fill_append {cs : List Char} (free : '\x7b' ∉ cs) (rest : List Char) :
    fill value none (cs ++ rest) = cs ++ fill value none rest := by
  induction cs with
  | nil => rfl
  | cons c others ih =>
    obtain ⟨other, later⟩ := not_or.mp (mt List.mem_cons.mpr free)
    rw [List.cons_append, fill, if_neg (Ne.symm other), ih later, List.cons_append]

theorem fill_inside {cs : List Char} (free : '\x7d' ∉ cs) (name rest : List Char) :
    fill value (some name) (cs ++ '\x7d' :: rest) =
      (value (String.ofList (name.reverse ++ cs))).toList ++ fill value none rest := by
  induction cs generalizing name with
  | nil => rw [List.nil_append, fill, if_pos rfl, List.append_nil]
  | cons c others ih =>
    obtain ⟨other, later⟩ := not_or.mp (mt List.mem_cons.mpr free)
    rw [List.cons_append, fill, if_neg (Ne.symm other), ih later, List.reverse_cons,
      List.append_assoc]
    rfl

/-- A name in braces gives way to its text. -/
theorem fill_braces {name : List Char} (free : '\x7d' ∉ name) (rest : List Char) :
    fill value none ('\x7b' :: (name ++ '\x7d' :: rest)) =
      (value (String.ofList name)).toList ++ fill value none rest := by
  rw [fill, if_pos rfl, fill_inside value free]
  rfl

end Filling

theorem formatContext_eq (context : Option String) :
    formatContext context = contextSuffix context := by
  cases context with
  | none => decide +kernel
  | some context =>
    have format : unquoted presentLiteral = [' ', '('] ++ '\x7b' :: (['c'] ++ '\x7d' :: [')']) := by
      decide +kernel
    rw [formatContext, format, fill_append _ (by decide), fill_braces _ (by decide)]
    apply String.toList_inj.mp
    simp [contextSuffix, fill]

/-! ## Declarations -/

/-- The literal of a format: a title, the place of a context if there is one, and a field. -/
def formatLiteral (title place field : String) : String :=
  "\"" ++ (title ++ place ++ ": \x7b" ++ field ++ "\x7d") ++ "\""

/-- The attribute with the format of a variant that has a context. -/
def contextFormat (title field : String) : Attribute :=
  ⟨⟨[], [.plain "error"]⟩, .list .paren
    [.literal (formatLiteral title "\x7b\x7d" field), .punct ',' false, .word "format_context",
      .opening .paren, .punct '.' false, .word "context", .closing .paren]⟩

/-- The attribute with the format of a variant without a context. -/
def plainFormat (title field : String) : Attribute :=
  ⟨⟨[], [.plain "error"]⟩, .list .paren [.literal (formatLiteral title "" field)]⟩

def messageField : Field where
  attributes := []
  visibility := []
  name := .plain "message"
  type := [.word "Cow", .punct '<' true, .lifetime (.plain "static"), .punct ',' false,
    .word "str", .punct '>' false]

def contextField : Field where
  attributes := []
  visibility := []
  name := .plain "context"
  type := contextTokens

/-- A variant with a message and a context. -/
def messageVariant (name title : String) : Variant where
  attributes := [contextFormat title "message"]
  name := .plain name
  fields := .named [messageField, contextField] false
  discriminant := []

/-- The enum of identity errors. -/
def identityEnum : Enumeration where
  attributes := []
  visibility := [.word "pub"]
  name := .plain "IdentityError"
  generics := []
  whereClause := []
  variants :=
    [messageVariant "MalformedPath" "Malformed claim path",
      messageVariant "InvalidRoot" "Invalid claim source",
      messageVariant "Internal" "Internal identity error"]
  comma := true

/-- A field that is a source by its attribute. -/
def causeField : Field where
  attributes := [⟨⟨[], [.plain "source"]⟩, .none⟩]
  visibility := []
  name := .plain "cause"
  type := [.word "SourceErr"]

/-- A variant with a source and a context. -/
def ioVariant : Variant where
  attributes := [contextFormat "IO error" "cause"]
  name := .plain "Io"
  fields := .named [causeField, contextField] false
  discriminant := []

/-- A variant without a context. -/
def plainVariant : Variant where
  attributes := [plainFormat "Plain error" "message"]
  name := .plain "Plain"
  fields := .named [messageField] false
  discriminant := []

/-- The enum of errors with every shape that a variant may have. -/
def shapesEnum : Enumeration where
  attributes := []
  visibility := [.word "pub"]
  name := .plain "WalkError"
  generics := []
  whereClause := []
  variants :=
    [ioVariant, plainVariant, messageVariant "Malformed" "Malformed path",
      messageVariant "Internal" "Internal walk error"]
  comma := true

section Formats

variable (value : String → String) {title field : String}

theorem unquoted_formatLiteral (title place field : String) :
    unquoted (formatLiteral title place field) =
      title.toList ++ (place.toList ++ ([':', ' '] ++ '\x7b' :: (field.toList ++ ['\x7d']))) := by
  have quoted : (formatLiteral title place field).toList = '"' ::
      (title.toList ++ (place.toList ++ ([':', ' '] ++ '\x7b' :: (field.toList ++ ['\x7d']))) ++
        ['"']) := by
    simp [formatLiteral]
  rw [unquoted, quoted, List.drop_one, List.tail_cons, List.dropLast_concat]

theorem fill_detail (closed : '\x7d' ∉ field.toList) :
    fill value none ([':', ' '] ++ '\x7b' :: (field.toList ++ ['\x7d'])) =
      (": " ++ value field).toList := by
  rw [fill_append value (by decide), fill_braces value closed, String.ofList_toList,
    String.toList_append, fill, List.append_nil]
  rfl

/-- A format with the place of a context, filled in. -/
theorem fill_contextFormat (opened : '\x7b' ∉ title.toList) (closed : '\x7d' ∉ field.toList) :
    String.ofList (fill value none (unquoted (formatLiteral title "\x7b\x7d" field))) =
      title ++ value "" ++ (": " ++ value field) := by
  have place : "\x7b\x7d".toList = '\x7b' :: ([] ++ ['\x7d']) := rfl
  apply String.toList_inj.mp
  rw [String.toList_ofList, unquoted_formatLiteral, fill_append value opened, place,
    List.cons_append, List.append_assoc, List.singleton_append, fill_braces value List.not_mem_nil,
    fill_detail value closed, String.ofList_nil]
  simp only [String.toList_append, List.append_assoc]

/-- A format without the place of a context, filled in. -/
theorem fill_plainFormat (opened : '\x7b' ∉ title.toList) (closed : '\x7d' ∉ field.toList) :
    String.ofList (fill value none (unquoted (formatLiteral title "" field))) =
      title ++ (": " ++ value field) := by
  apply String.toList_inj.mp
  rw [String.toList_ofList, unquoted_formatLiteral, fill_append value opened, String.toList_append]
  exact congrArg _ (fill_detail value closed)

end Formats

section Display

variable (variant : Variant) {title field : String}

theorem display?_of_contextFormat (declared : variant.attributes = [contextFormat title field])
    (opened : '\x7b' ∉ title.toList) (closed : '\x7d' ∉ field.toList) (named : field ≠ "")
    (error : ErrorValue) :
    variant.display? error =
      some (title ++ contextSuffix (error.field? "context") ++
        (": " ++ (error.field? field).getD "")) := by
  have call : texts [.punct ',' false, .word "format_context", .opening .paren, .punct '.' false,
      .word "context", .closing .paren] = words ", format_context ( . context )" := by
    decide +kernel
  have format : variant.attributes.find? (·.isWord "error") = some (contextFormat title field) := by
    rw [declared]
    rfl
  rw [Variant.display?, format]
  change some (String.ofList (fill _ none (unquoted (formatLiteral title _ field)))) = _
  rw [fill_contextFormat _ opened closed, if_pos rfl, if_neg named, unnamedArgument, if_pos call,
    formatContext_eq]

theorem display?_of_plainFormat (declared : variant.attributes = [plainFormat title field])
    (opened : '\x7b' ∉ title.toList) (closed : '\x7d' ∉ field.toList) (named : field ≠ "")
    (error : ErrorValue) :
    variant.display? error = some (title ++ (": " ++ (error.field? field).getD "")) := by
  have format : variant.attributes.find? (·.isWord "error") = some (plainFormat title field) := by
    rw [declared]
    rfl
  rw [Variant.display?, format]
  change some (String.ofList (fill _ none (unquoted (formatLiteral title _ field)))) = _
  rw [fill_plainFormat _ opened closed, if_neg named]

/-- The text of a message with a context. -/
theorem display?_messageVariant (name : String) (opened : '\x7b' ∉ title.toList)
    {error : ErrorValue} {message : String} {context : Option String}
    (fields : error.fields = [("message", some message), ("context", context)]) :
    (messageVariant name title).display? error =
      some (title ++ contextSuffix context ++ ": " ++ message) := by
  rw [display?_of_contextFormat _ rfl opened (by decide) (by decide), ErrorValue.field?,
    ErrorValue.field?, fields, ← String.append_assoc]
  rfl

end Display

/-! ## The error types -/

/-- A text is converted by the first conversion for its type. -/
theorem Expansion.convert?_text {expansion : Expansion} {type : List String}
    (conditions : List Attribute) {form : String} (known : form = "Borrowed" ∨ form = "Owned")
    (found : expansion.implementations.find? (fun impl =>
      impl.purpose == .conversion && impl.type == type) =
        some (textConversion conditions type form)) (message : String) :
    expansion.convert? type message =
      some ⟨"Internal", [("message", some message), ("context", none)]⟩ := by
  rw [convert?, found]
  exact build?_textConversion conditions type known message

/-- What the code that is generated for an enum does to its errors is what the operations of an
error type do. -/
structure Enumeration.Generates (enumeration : Enumeration) {ε : Type} [Contextual ε]
    (declared : ε → ErrorValue) (text : ε → String) (ofMessage : String → ε) : Prop where
  expanded : enumeration.expand = .ok enumeration.expansion
  faithful : Function.Injective declared
  context : ∀ error context, declared (Contextual.within error context) =
    enumeration.expansion.assignContext context (declared error)
  displayed : ∀ error, enumeration.display? (declared error) = some (text error)
  converted : ∀ message, ∀ type ∈ [borrowedType, ownedType],
    enumeration.expansion.convert? type message = some (declared (ofMessage message))

end ErrorEnum

open ErrorEnum

/-- An identity error as an error of its enum. -/
def IdentityError.declared (error : IdentityError) : ErrorValue :=
  ⟨error.kind.name, [("message", some error.message), ("context", error.context)]⟩

/-- An error of every shape as an error of its enum. -/
def WalkError.declared : WalkError → ErrorValue
  | .io cause context => ⟨"Io", [("cause", some cause.text), ("context", context)]⟩
  | .plain message => ⟨"Plain", [("message", some message)]⟩
  | .malformed message context =>
    ⟨"Malformed", [("message", some message), ("context", context)]⟩
  | .internal message context => ⟨"Internal", [("message", some message), ("context", context)]⟩

theorem IdentityError.generates : identityEnum.Generates declared text ofMessage where
  expanded := rfl
  faithful := by
    rintro ⟨kind, message, context⟩ ⟨other, same, suffix⟩ equal
    cases kind <;> cases other <;> simp_all [declared, FaultKind.name]
  context := by
    rintro ⟨kind, message, context⟩ other
    cases kind <;> rfl
  displayed := by
    rintro ⟨kind, message, context⟩
    cases kind with
    | malformedPath => exact display?_messageVariant "MalformedPath" (by decide) rfl
    | invalidRoot => exact display?_messageVariant "InvalidRoot" (by decide) rfl
    | internal => exact display?_messageVariant "Internal" (by decide) rfl
  converted message type among := by
    rw [List.mem_cons, List.mem_singleton] at among
    rcases among with rfl | rfl
    · exact Expansion.convert?_text [] (.inl rfl) (by decide +kernel) message
    · exact Expansion.convert?_text [] (.inr rfl) (by decide +kernel) message

namespace WalkError

theorem generates : shapesEnum.Generates declared text ofMessage where
  expanded := rfl
  faithful := by
    rintro (⟨⟨source⟩, _⟩ | _ | _ | _) (⟨⟨source⟩, _⟩ | _ | _ | _) same <;>
      simp_all [declared]
  context error context := by
    cases error <;> rfl
  displayed error := by
    cases error with
    | io cause context =>
      exact (display?_of_contextFormat ioVariant rfl (by decide) (by decide) (by decide) _).trans
        (congrArg some String.append_assoc.symm)
    | plain message =>
      exact display?_of_plainFormat plainVariant rfl (by decide) (by decide) (by decide) _
    | malformed message context => exact display?_messageVariant "Malformed" (by decide) rfl
    | internal message context => exact display?_messageVariant "Internal" (by decide) rfl
  converted message type among := by
    rw [List.mem_cons, List.mem_singleton] at among
    rcases among with rfl | rfl
    · exact Expansion.convert?_text [] (.inl rfl) (by decide +kernel) message
    · exact Expansion.convert?_text [] (.inr rfl) (by decide +kernel) message

/-- The implementations for the source. -/
def causeImpl : SourceImpl := ⟨[], .plain "Io", .plain "cause", [.word "SourceErr"]⟩

theorem convert?_cause (cause : SourceError) :
    shapesEnum.expansion.convert? ["SourceErr"] cause.text = some (ofSource cause).declared := by
  have found : shapesEnum.expansion.implementations.find? (fun impl =>
      impl.purpose == .conversion && impl.type == ["SourceErr"]) = some causeImpl.conversion := by
    decide +kernel
  rw [Expansion.convert?, found]
  exact causeImpl.build?_conversion cause.text

/-- A context on the failure of the source, by the implementation for it. -/
theorem contextOn?_cause (cause : SourceError) (context : String) :
    shapesEnum.expansion.contextOn? ["SourceErr"] cause.text context =
      some (io cause (some context)).declared := by
  have found : shapesEnum.expansion.implementations.find? (fun impl =>
      impl.purpose == .context && impl.type == ["SourceErr"]) = some causeImpl.contextual := by
    decide +kernel
  have generated : causeImpl ∈ shapesEnum.expansion.sources := by decide +kernel
  have converted : (causeImpl.conversion.build? cause.text none).map
      (shapesEnum.expansion.assignContext context) =
        some (shapesEnum.expansion.assignContext context (ofSource cause).declared) :=
    congrArg _ (causeImpl.build?_conversion cause.text)
  rw [Expansion.contextOn?, found]
  exact (Enumeration.contextual_eq_conversion generates.expanded generated (by decide) _ _).trans
    (converted.trans (congrArg some (generates.context (ofSource cause) context).symm))

end WalkError

end IdentityClaims
