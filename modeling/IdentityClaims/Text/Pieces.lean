/-!
# Pieces of a text

Every text splits at a separator into one piece more than it has separators; pieces may be empty.
-/

namespace IdentityClaims.Text

/-- The characters up to the first separator, and the pieces between the separators after it. -/
def splitChars (separator : Char) : List Char → List Char × List (List Char)
  | [] => ([], [])
  | c :: rest =>
    let (first, others) := splitChars separator rest
    if c = separator then ([], first :: others) else (c :: first, others)

def pieces (separator : Char) (text : String) : List String :=
  let (first, others) := splitChars separator text.toList
  String.ofList first :: others.map String.ofList

theorem separator_not_mem_splitChars (separator : Char) (cs : List Char) :
    separator ∉ (splitChars separator cs).1 ∧
      ∀ piece ∈ (splitChars separator cs).2, separator ∉ piece := by
  induction cs with
  | nil => simp [splitChars]
  | cons c rest ih =>
    by_cases cut : c = separator
    · simpa [splitChars, cut] using ih
    · refine ⟨?_, by simpa [splitChars, cut] using ih.2⟩
      simpa [splitChars, cut, Ne.symm cut] using ih.1

/-- No piece holds the separator. -/
theorem separator_not_mem_of_mem_pieces {separator : Char} {text piece : String}
    (member : piece ∈ pieces separator text) : separator ∉ piece.toList := by
  have free := separator_not_mem_splitChars separator text.toList
  simp only [pieces, List.mem_cons, List.mem_map] at member
  rcases member with rfl | ⟨cs, among, rfl⟩
  · simpa using free.1
  · simpa using free.2 cs among

end IdentityClaims.Text
