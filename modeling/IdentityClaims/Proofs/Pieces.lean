import IdentityClaims.Text.Pieces

/-!
# Splitting and joining at a separator

The pieces of a text are the only texts without the separator whose join is the text, and an
empty piece is a separator at an end of the text or next to another one. Both are stated of the
characters first; the split itself is the one of the library.
-/

namespace IdentityClaims.Text

theorem splitChars_eq_splitOn (separator : Char) (cs : List Char) :
    (splitChars separator cs).1 :: (splitChars separator cs).2 = cs.splitOn separator := by
  induction cs with
  | nil => rfl
  | cons c rest ih =>
    rw [List.splitOn_cons_eq_if_modifyHead, ← ih]
    by_cases cut : c = separator <;> simp [splitChars, cut]

theorem pieces_eq_splitOn (separator : Char) (text : String) :
    pieces separator text = (text.toList.splitOn separator).map String.ofList := by
  rw [← splitChars_eq_splitOn]
  rfl

/-- The pieces, joined by the separator, are the text again. -/
theorem intercalate_pieces (separator : Char) (text : String) :
    String.intercalate (String.ofList [separator]) (pieces separator text) = text := by
  rw [← String.toList_inj, String.toList_intercalate, pieces_eq_splitOn, List.map_map]
  simp

/-- Texts without the separator are the pieces of their join. -/
theorem pieces_intercalate (separator : Char) (segments : List String) (nonempty : segments ≠ [])
    (free : ∀ segment ∈ segments, separator ∉ segment.toList) :
    pieces separator (String.intercalate (String.ofList [separator]) segments) = segments := by
  have chars : ((String.intercalate (String.ofList [separator]) segments).toList).splitOn
      separator = segments.map String.toList := by
    rw [String.toList_intercalate, String.toList_ofList]
    apply List.splitOn_intercalate
    · simpa using free
    · simpa using nonempty
  rw [pieces_eq_splitOn, chars, List.map_map]
  simp

/-- Two texts with a separator between them have the pieces of the one and then those of the
other. -/
theorem pieces_append (separator : Char) (left right : String) :
    pieces separator (left ++ String.ofList [separator] ++ right) =
      pieces separator left ++ pieces separator right := by
  have chars : (left ++ String.ofList [separator] ++ right).toList =
      left.toList ++ separator :: right.toList := by
    simp
  rw [pieces_eq_splitOn, pieces_eq_splitOn, pieces_eq_splitOn, chars,
    List.splitOn_append_cons_self, List.map_append]

/-- The first piece is empty when the text is, or starts with a separator. -/
theorem first_eq_nil_iff (separator : Char) (cs : List Char) :
    (splitChars separator cs).1 = [] ↔ cs = [] ∨ [separator] <+: cs := by
  cases cs with
  | nil => simp [splitChars]
  | cons c rest =>
    by_cases cut : c = separator
    · simp [splitChars, cut]
    · simp [splitChars, cut, Ne.symm cut]

/-- A later piece is empty when the text ends with a separator or has two in a row. -/
theorem nil_mem_others_iff (separator : Char) (cs : List Char) :
    [] ∈ (splitChars separator cs).2 ↔
      [separator] <:+ cs ∨ [separator, separator] <:+: cs := by
  induction cs with
  | nil => simp [splitChars]
  | cons c rest ih =>
    rw [List.suffix_cons_iff, List.infix_cons_iff, List.cons_prefix_cons]
    by_cases cut : c = separator
    · have spread : [] ∈ (splitChars separator (c :: rest)).2 ↔
          [] = (splitChars separator rest).1 ∨ [] ∈ (splitChars separator rest).2 := by
        simp [splitChars, cut]
      rw [spread, ih, eq_comm, first_eq_nil_iff, cut]
      grind
    · have kept : (splitChars separator (c :: rest)).2 = (splitChars separator rest).2 := by
        simp [splitChars, cut]
      rw [kept, ih]
      grind

/-- Some piece is empty exactly when a separator has no neighbour on one of its sides. -/
theorem empty_mem_pieces_iff (separator : Char) (text : String) :
    "" ∈ pieces separator text ↔
      text = "" ∨ [separator] <+: text.toList ∨ [separator] <:+ text.toList ∨
        [separator, separator] <:+: text.toList := by
  have split : "" ∈ pieces separator text ↔
      (splitChars separator text.toList).1 = [] ∨ [] ∈ (splitChars separator text.toList).2 := by
    rw [pieces, List.mem_cons, eq_comm, String.ofList_eq_empty_iff]
    simp
  rw [split, first_eq_nil_iff, nil_mem_others_iff, String.toList_eq_nil_iff, or_assoc]

end IdentityClaims.Text
