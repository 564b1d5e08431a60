import IdentityClaims.Proofs.Numerals

/-!
# Printed values

What is printed for a value is a text that reads as one document, the one that writes the value.
The text falls into the tokens of that document, and from its tokens the document is read.
-/

namespace IdentityClaims.Json

/-! ## Texts -/

theorem hexValue?_hexDigit : ∀ n < 16, hexValue? (hexDigit n) = some n := by decide

theorem hexUnit?_hexDigit {n : Nat} (small : n < 0x20) :
    hexUnit? '0' '0' (hexDigit (n / 16)) (hexDigit (n % 16)) = some n := by
  have zero : hexValue? '0' = some 0 := by decide
  rw [hexUnit?, zero, hexValue?_hexDigit _ (by omega), hexValue?_hexDigit _ (by omega)]
  exact congrArg some (by omega)

/-- A printed character is read as its own code. -/
theorem textUnits?_quotedChar (c : Char) (rest : List Char) :
    textUnits? (quotedChar c ++ rest) =
      (textUnits? rest).map fun read => (c.toNat :: read.1, read.2) := by
  unfold quotedChar
  by_cases marked : (c = '"' || c = '\\') = true
  · rw [if_pos marked, List.cons_append, List.cons_append, List.nil_append]
    simp only [Bool.or_eq_true, decide_eq_true_eq] at marked
    -- The escaped character is no code, for which the escape would have to go on with a `u`.
    rcases marked with rfl | rfl
    all_goals
      rw [textUnits?]
      · cases textUnits? rest <;> rfl
      · simp
  · rw [if_neg marked]
    simp only [Bool.or_eq_true, decide_eq_true_eq, not_or] at marked
    by_cases control : c.toNat < 0x20
    · rw [if_pos control]
      simp only [List.cons_append, List.nil_append]
      rw [textUnits?, hexUnit?_hexDigit control]
      cases textUnits? rest <;> rfl
    · rw [if_neg control, List.cons_append, List.nil_append, textUnits?]
      · have plain : ¬ (c.toNat < 0x20 || c == '\\') = true := by simp [control, marked.2]
        simp only [if_neg plain]
        cases textUnits? rest <;> rfl
      all_goals simp [marked]

/-- Up to its closing quote a printed text is read as the codes of its characters. -/
theorem textUnits?_flatMap (cs rest : List Char) :
    textUnits? (cs.flatMap quotedChar ++ '"' :: rest) = some (cs.map Char.toNat, rest) := by
  induction cs with
  | nil => rfl
  | cons c cs ih =>
    rw [List.flatMap_cons, List.append_assoc, textUnits?_quotedChar, ih]
    rfl

/-- No character is a half of a surrogate pair. -/
theorem not_isHalf (c : Char) : ¬ (isHighHalf c.toNat || isLowHalf c.toNat) = true := by
  have valid : c.toNat < 0xD800 ∨ 0xDFFF < c.toNat ∧ c.toNat < 0x110000 := c.valid
  simp only [isHighHalf, isLowHalf, Bool.or_eq_true, Bool.and_eq_true, decide_eq_true_eq]
  omega

/-- The codes of characters are joined to these characters. -/
theorem joinUnits?_map_toNat (cs : List Char) : joinUnits? (cs.map Char.toNat) = some cs := by
  induction cs with
  | nil => rfl
  | cons c rest ih =>
    cases rest with
    | nil =>
      rw [List.map_cons, List.map_nil, joinUnits?, if_neg (not_isHalf c), Char.ofNat_toNat]
    | cons d rest =>
      have apart : ¬ (isHighHalf c.toNat && isLowHalf d.toNat) = true := by
        have half := not_isHalf c
        grind
      rw [List.map_cons, List.map_cons, joinUnits?, if_neg apart, if_neg (not_isHalf c),
        ← List.map_cons, ih, Option.map_some, Char.ofNat_toNat]

theorem next?_quoted (text : String) (rest : List Char) :
    Token.next? ((quoted text).toList ++ rest) = some (.text (some text), rest) := by
  rw [quoted, String.toList_ofList, List.cons_append, List.cons_append, List.append_assoc,
    Token.next?]
  simp only [List.cons_append, List.nil_append, textUnits?_flatMap, Option.bind_eq_bind,
    Option.bind_some, joinUnits?_map_toNat, Option.map_some, String.ofList_toList]
  rfl

/-! ## Tokens of a text -/

/-- The tokens read at the front of a text, and what is left of it. -/
inductive Reads : List Char → List Token → List Char → Prop where
  | done (rest : List Char) : Reads rest [] rest
  | next {c : Char} {cs middle rest : List Char} {token : Token} {tokens : List Token}
    (solid : isBlank c = false) (first : Token.next? (c :: cs) = some (token, middle))
    (shorter : middle.length ≤ cs.length) (later : Reads middle tokens rest) :
    Reads (c :: cs) (token :: tokens) rest

namespace Reads

variable {front middle rest : List Char} {tokens others : List Token}

theorem append (first : Reads front tokens middle) (later : Reads middle others rest) :
    Reads front (tokens ++ others) rest := by
  induction first with
  | done => exact later
  | next solid taken shorter _ ih => exact .next solid taken shorter (ih later)

/-- Every token takes a character at least. -/
theorem length_le (read : Reads front tokens rest) :
    tokens.length + rest.length ≤ front.length := by
  induction read with
  | done => simp
  | next _ _ shorter _ ih =>
    rw [List.length_cons, List.length_cons]
    omega

/-- With enough fuel all tokens of a text are read. -/
theorem readAll? (read : Reads front tokens []) {fuel : Nat} (enough : tokens.length ≤ fuel) :
    Token.readAll? fuel front = some tokens := by
  generalize empty : ([] : List Char) = rest at read
  induction read generalizing fuel with
  | done =>
    subst empty
    cases fuel <;> rfl
  | @next c cs _ _ token _ solid first _ _ ih =>
    cases fuel with
    | zero => simp at enough
    | succ fuel =>
      -- A token does not begin with a blank, so nothing is dropped in front of it.
      have kept : (c :: cs).dropWhile isBlank = c :: cs := by
        rw [List.dropWhile_cons, if_neg (by simp [solid])]
      rw [Token.readAll?, kept]
      simp only [first, Option.bind_eq_bind, Option.bind_some]
      rw [ih (by simpa using enough) empty]
      rfl

end Reads

/-! ## Documents and their tokens -/

namespace Document

mutual

/-- The tokens of a document. -/
def tokens : Document → List Token
  | .null => [.null]
  | .boolean b => [.boolean b]
  | .number n => [.number n]
  | .text raw => [.text raw]
  | .array items => .openBracket :: itemTokens items
  | .object members => .openBrace :: memberTokens members

/-- The tokens of items up to the closing bracket. -/
def itemTokens : List Document → List Token
  | [] => [.closeBracket]
  | [item] => item.tokens ++ [.closeBracket]
  | item :: next :: rest => item.tokens ++ .comma :: itemTokens (next :: rest)

/-- The tokens of members up to the closing brace. -/
def memberTokens : List (RawText × Document) → List Token
  | [] => [.closeBrace]
  | [(key, item)] => .text key :: .colon :: (item.tokens ++ [.closeBrace])
  | (key, item) :: next :: rest =>
    .text key :: .colon :: (item.tokens ++ .comma :: memberTokens (next :: rest))

end

/-- Items do not begin with a closing bracket. -/
theorem itemTokens_ne_closeBracket (item : Document) (others : List Document)
    (rest following : List Token) :
    itemTokens (item :: others) ++ rest ≠ .closeBracket :: following := by
  cases others <;> cases item <;> exact nofun

/-- Members do not begin with a closing brace. -/
theorem memberTokens_ne_closeBrace (member : RawText × Document)
    (others : List (RawText × Document)) (rest following : List Token) :
    memberTokens (member :: others) ++ rest ≠ .closeBrace :: following := by
  cases others <;> exact nofun

/-- With a fuel, what has half as many tokens is read from them. -/
structure ReadsTokens (fuel : Nat) : Prop where
  document (document : Document) (rest : List Token) (enough : 2 * document.tokens.length ≤ fuel) :
    read? fuel (document.tokens ++ rest) = some (document, rest)
  items (item : Document) (others : List Document) (rest : List Token)
    (enough : 2 * (itemTokens (item :: others)).length ≤ fuel) :
    readItems? fuel (itemTokens (item :: others) ++ rest) = some (item :: others, rest)
  members (member : RawText × Document) (others : List (RawText × Document)) (rest : List Token)
    (enough : 2 * (memberTokens (member :: others)).length ≤ fuel) :
    readMembers? fuel (memberTokens (member :: others) ++ rest) = some (member :: others, rest)

theorem ReadsTokens.succ {fuel : Nat} (before : ReadsTokens fuel) : ReadsTokens (fuel + 1) where
  document document rest enough := by
    match document with
    | .null | .boolean _ | .number _ | .text _ => rfl
    | .array [] | .object [] => rfl
    | .array (item :: others) =>
      rw [tokens, List.length_cons] at enough
      rw [tokens, List.cons_append, read?, before.items item others rest (by omega)]
      · rfl
      · exact itemTokens_ne_closeBracket item others rest
    | .object (member :: others) =>
      rw [tokens, List.length_cons] at enough
      rw [tokens, List.cons_append, read?, before.members member others rest (by omega)]
      · rfl
      · exact memberTokens_ne_closeBrace member others rest
  items item others rest enough := by
    cases others with
    | nil =>
      rw [itemTokens, List.length_append, List.length_singleton] at enough
      rw [itemTokens, List.append_assoc, readItems?, before.document item _ (by omega)]
      rfl
    | cons next others =>
      rw [itemTokens, List.length_append, List.length_cons] at enough
      rw [itemTokens, List.append_assoc, List.cons_append, readItems?,
        before.document item _ (by omega)]
      simp only [Option.bind_eq_bind, Option.bind_some]
      rw [before.items next others rest (by omega)]
      rfl
  members member others rest enough := by
    obtain ⟨key, item⟩ := member
    cases others with
    | nil =>
      rw [memberTokens, List.length_cons, List.length_cons, List.length_append,
        List.length_singleton] at enough
      rw [memberTokens, List.cons_append, List.cons_append, List.append_assoc, readMembers?,
        before.document item _ (by omega)]
      rfl
    | cons next others =>
      rw [memberTokens, List.length_cons, List.length_cons, List.length_append,
        List.length_cons] at enough
      rw [memberTokens, List.cons_append, List.cons_append, List.append_assoc, List.cons_append,
        readMembers?, before.document item _ (by omega)]
      simp only [Option.bind_eq_bind, Option.bind_some]
      rw [before.members next others rest (by omega)]
      rfl

theorem readsTokens (fuel : Nat) : ReadsTokens fuel := by
  induction fuel with
  | zero =>
    refine ⟨fun document _ enough => ?_, fun _ others _ enough => ?_,
      fun _ others _ enough => ?_⟩
    · cases document <;> simp [tokens] at enough
    · cases others <;> simp [itemTokens] at enough
    · cases others <;> simp [memberTokens] at enough
  | succ fuel before => exact before.succ

/-- A text with the tokens of a document holds this document. -/
theorem parse?_of_reads {text : String} {document : Document}
    (read : Reads text.toList document.tokens []) : parse? text = some document := by
  have enough : document.tokens.length ≤ text.toList.length := read.length_le
  have whole := (readsTokens _).document document []
    (Nat.le_succ (2 * document.tokens.length))
  rw [List.append_nil] at whole
  rw [parse?, Token.ofText?, read.readAll? enough]
  simp only [Option.bind_eq_bind, Option.bind_some]
  rw [whole]
  rfl

end Document

/-! ## Values -/

namespace Value

mutual

/-- The document that a value is printed as. -/
def toDocument : Value → Document
  | .null => .null
  | .boolean b => .boolean b
  | .number n => .number n.toNumeral
  | .string s => .text (some s)
  | .array items => .array (toDocuments items)
  | .object members => .object (toMembers members)

def toDocuments : List Value → List Document
  | [] => []
  | item :: rest => item.toDocument :: toDocuments rest

def toMembers : List (String × Value) → List (RawText × Document)
  | [] => []
  | (key, item) :: rest => (some key, item.toDocument) :: toMembers rest

end

theorem toDocuments_eq_map (items : List Value) : toDocuments items = items.map toDocument := by
  induction items with
  | nil => rfl
  | cons item rest ih => rw [toDocuments, ih, List.map_cons]

theorem toMembers_eq_map (members : List (String × Value)) :
    toMembers members = members.map fun member => (some member.1, member.2.toDocument) := by
  induction members with
  | nil => rfl
  | cons member rest ih => rw [toMembers, ih, List.map_cons]

theorem toList_array (items : List Value) :
    (array items).render.toList = '[' :: ((renderItems items).toList ++ [']']) := by
  rw [render, String.toList_append, String.toList_append]
  rfl

theorem toList_object (members : List (String × Value)) :
    (object members).render.toList = '\x7b' :: ((renderMembers members).toList ++ ['\x7d']) := by
  rw [render, String.toList_append, String.toList_append]
  rfl

theorem toList_items (item next : Value) (others : List Value) :
    (renderItems (item :: next :: others)).toList =
      item.render.toList ++ ',' :: (renderItems (next :: others)).toList := by
  rw [renderItems, String.toList_append, String.toList_append, List.append_assoc]
  · rfl
  · exact nofun

theorem toList_member (key : String) (item : Value) :
    (renderMembers [(key, item)]).toList = (quoted key).toList ++ ':' :: item.render.toList := by
  rw [renderMembers, String.toList_append, String.toList_append, List.append_assoc]
  rfl

theorem toList_members (key : String) (item : Value) (next : String × Value)
    (others : List (String × Value)) :
    (renderMembers ((key, item) :: next :: others)).toList =
      (quoted key).toList ++ ':' :: (item.render.toList ++
        ',' :: (renderMembers (next :: others)).toList) := by
  rw [renderMembers]
  · simp only [String.toList_append, List.append_assoc]
    rfl
  · exact nofun

theorem reads_quoted (text : String) (rest : List Char) :
    Reads ((quoted text).toList ++ rest) [.text (some text)] rest := by
  have taken := next?_quoted text rest
  rw [quoted, String.toList_ofList, List.cons_append, List.cons_append] at taken ⊢
  exact .next (by decide) taken (by simp only [List.length_append]; omega) (.done rest)

theorem reads_literal (n : Number) {rest : List Char} (ends : Ends rest) :
    Reads (n.literal.toList ++ rest) [.number n.toNumeral] rest := by
  have taken := (spells_literal n).next? ends
  obtain ⟨c, others, literal, solid⟩ := (spells_literal n).exists_cons
  rw [literal, List.cons_append] at taken ⊢
  exact .next solid taken (by simp) (.done rest)

mutual

/-- A printed value falls into the tokens of its document. -/
theorem reads_render (value : Value) {rest : List Char} (ends : Ends rest) :
    Reads (value.render.toList ++ rest) value.toDocument.tokens rest := by
  match value with
  | .null =>
    change Reads ('n' :: 'u' :: 'l' :: 'l' :: rest) [.null] rest
    exact .next (by decide) rfl (by simp only [List.length_cons]; omega) (.done rest)
  | .boolean true =>
    change Reads ('t' :: 'r' :: 'u' :: 'e' :: rest) [.boolean true] rest
    exact .next (by decide) rfl (by simp only [List.length_cons]; omega) (.done rest)
  | .boolean false =>
    change Reads ('f' :: 'a' :: 'l' :: 's' :: 'e' :: rest) [.boolean false] rest
    exact .next (by decide) rfl (by simp only [List.length_cons]; omega) (.done rest)
  | .number n => exact reads_literal n ends
  | .string s => exact reads_quoted s rest
  | .array items =>
    rw [toList_array, List.cons_append, List.append_assoc]
    exact .next (by decide) rfl (Nat.le_refl _) (reads_renderItems items rest)
  | .object members =>
    rw [toList_object, List.cons_append, List.append_assoc]
    exact .next (by decide) rfl (Nat.le_refl _) (reads_renderMembers members rest)

/-- Printed items fall into their tokens up to the closing bracket. -/
theorem reads_renderItems (items : List Value) (rest : List Char) :
    Reads ((renderItems items).toList ++ ']' :: rest)
      (Document.itemTokens (toDocuments items)) rest := by
  match items with
  | [] => exact .next (by decide) rfl (Nat.le_refl _) (.done rest)
  | [item] =>
    exact (reads_render item (by simp [Ends])).append
      (.next (by decide) rfl (Nat.le_refl _) (.done rest))
  | item :: next :: others =>
    rw [toList_items, List.append_assoc]
    exact (reads_render item (by simp [Ends])).append
      (.next (by decide) rfl (Nat.le_refl _) (reads_renderItems (next :: others) rest))

/-- Printed members fall into their tokens up to the closing brace. -/
theorem reads_renderMembers (members : List (String × Value)) (rest : List Char) :
    Reads ((renderMembers members).toList ++ '\x7d' :: rest)
      (Document.memberTokens (toMembers members)) rest := by
  match members with
  | [] => exact .next (by decide) rfl (Nat.le_refl _) (.done rest)
  | [(key, item)] =>
    rw [toList_member, List.append_assoc]
    exact (reads_quoted key _).append (.next (by decide) rfl (Nat.le_refl _)
      ((reads_render item (by simp [Ends])).append
        (.next (by decide) rfl (Nat.le_refl _) (.done rest))))
  | (key, item) :: next :: others =>
    rw [toList_members, List.append_assoc, List.cons_append, List.append_assoc]
    exact (reads_quoted key _).append (.next (by decide) rfl (Nat.le_refl _)
      ((reads_render item (by simp [Ends])).append
        (.next (by decide) rfl (Nat.le_refl _) (reads_renderMembers (next :: others) rest))))

end

/-- A printed value is a text that holds the document of the value. -/
theorem parse?_render (value : Value) : Document.parse? value.render = some value.toDocument := by
  have ends : Ends [] := nofun
  have read := reads_render value ends
  rw [List.append_nil] at read
  exact Document.parse?_of_reads read

end Value

end IdentityClaims.Json
