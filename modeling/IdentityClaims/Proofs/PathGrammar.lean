import IdentityClaims.Path
import IdentityClaims.Proofs.Pieces

/-!
# The grammar of dotted paths

A text is a path for `lookup` unless it is empty or has an empty piece, that is a stray dot. A path
spells exactly one list of segments, its pieces.
-/

namespace IdentityClaims.Path

/-- A text that is no path: it is empty, or nothing stands between two of its dots or between
a dot and an end. -/
def Malformed (text : String) : Prop :=
  text = "" ∨ "" ∈ pieces text

instance (text : String) : Decidable (Malformed text) :=
  inferInstanceAs (Decidable (_ ∨ _))

/-- A dot at the start or at the end of a text, or next to another dot. -/
def StrayDot (text : String) : Prop :=
  ['.'] <+: text.toList ∨ ['.'] <:+ text.toList ∨ ['.', '.'] <:+: text.toList

/-- Segments whose join by dots is the text. -/
def Spells (segments : List String) (text : String) : Prop :=
  (∀ segment ∈ segments, IsSegment segment) ∧ String.intercalate "." segments = text

theorem malformed_iff (text : String) : Malformed text ↔ text = "" ∨ StrayDot text := by
  unfold Malformed StrayDot pieces
  rw [Text.empty_mem_pieces_iff]
  grind

theorem pieces_ne_nil (text : String) : pieces text ≠ [] :=
  List.cons_ne_nil _ _

theorem isSegment_of_mem_pieces {text piece : String} (proper : ¬ Malformed text)
    (member : piece ∈ pieces text) : IsSegment piece := by
  refine ⟨?_, Text.separator_not_mem_of_mem_pieces member⟩
  rintro rfl
  exact proper (Or.inr member)

/-- A path spells its pieces and no other segments. -/
theorem spells_iff {text : String} (proper : ¬ Malformed text) (segments : List String) :
    Spells segments text ↔ segments = pieces text := by
  constructor
  · rintro ⟨full, rfl⟩
    have nonempty : segments ≠ [] := by
      rintro rfl
      exact proper (Or.inl String.intercalate_nil)
    exact (Text.pieces_intercalate '.' segments nonempty fun s member => (full s member).2).symm
  · rintro rfl
    exact ⟨fun _ member => isSegment_of_mem_pieces proper member, Text.intercalate_pieces '.' text⟩

/-- A segment is a path of its own. -/
theorem pieces_of_isSegment {segment : String} (proper : IsSegment segment) :
    pieces segment = [segment] := by
  have single := Text.pieces_intercalate '.' [segment] (List.cons_ne_nil _ _)
    (by simpa using proper.2)
  rwa [String.intercalate_singleton] at single

theorem not_malformed_of_isSegment {segment : String} (proper : IsSegment segment) :
    ¬ Malformed segment := by
  rintro (empty | gap)
  · exact proper.1 empty
  · rw [pieces_of_isSegment proper, List.mem_singleton] at gap
    exact proper.1 gap.symm

/-- A path continued by another one has the segments of both. -/
theorem pieces_continued (path further : String) :
    pieces (path ++ "." ++ further) = pieces path ++ pieces further :=
  Text.pieces_append '.' path further

theorem not_malformed_continued {path further : String} (proper : ¬ Malformed path)
    (properFurther : ¬ Malformed further) : ¬ Malformed (path ++ "." ++ further) := by
  rintro (empty | gap)
  · have chars := congrArg String.toList empty
    simp at chars
  · rw [pieces_continued, List.mem_append] at gap
    exact gap.elim (fun first => proper (Or.inr first)) fun last => properFurther (Or.inr last)

theorem parse_empty : parse "" = .error .emptyPath := rfl

theorem parse_of_strayDot {text : String} (nonempty : text ≠ "") (stray : StrayDot text) :
    parse text = .error (.emptySegment text) := by
  have gap : "" ∈ pieces text :=
    ((malformed_iff text).mpr (Or.inr stray)).resolve_left nonempty
  unfold parse
  rw [if_neg nonempty, dif_neg fun full => full "" gap rfl]

/-- A malformed text has a fault, whatever is to be read with it. -/
theorem parse_of_malformed {text : String} (malformed : Malformed text) :
    ∃ fault, parse text = .error fault := by
  by_cases empty : text = ""
  · exact ⟨.emptyPath, empty ▸ parse_empty⟩
  · exact ⟨_, parse_of_strayDot empty (((malformed_iff text).mp malformed).resolve_left empty)⟩

theorem parse_of_proper {text : String} (proper : ¬ Malformed text) :
    ∃ path, parse text = .ok path ∧ path.segments = pieces text := by
  have nonempty : text ≠ "" := fun empty => proper (Or.inl empty)
  have full : ∀ piece ∈ pieces text, piece ≠ "" :=
    fun _ member => (isSegment_of_mem_pieces proper member).1
  unfold parse
  rw [if_neg nonempty, dif_pos full]
  exact ⟨_, rfl, rfl⟩

end IdentityClaims.Path
