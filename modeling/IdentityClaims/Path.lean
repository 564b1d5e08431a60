import IdentityClaims.Text.Pieces

/-!
# Dotted paths

A path is written as its segments joined by dots, which is what `lookup` checks first. Every text
splits at its dots; it is a path when it is not empty and no segment of it is.
-/

namespace IdentityClaims

def IsSegment (segment : String) : Prop :=
  segment ≠ "" ∧ '.' ∉ segment.toList

/-- A non-empty list of segments. -/
structure Path where
  segments : List String
  ne_nil : segments ≠ []
  proper : ∀ segment ∈ segments, IsSegment segment
  deriving DecidableEq, Repr

inductive PathFault where
  | emptyPath
  | emptySegment (path : String)
  deriving DecidableEq, Repr

namespace Path

def pieces (text : String) : List String := Text.pieces '.' text

/-- The path that a text writes. Emptiness of the whole text is reported before that of a
segment. -/
def parse (text : String) : Except PathFault Path :=
  if text = "" then .error .emptyPath
  else if full : ∀ piece ∈ pieces text, piece ≠ "" then
    .ok ⟨pieces text, List.cons_ne_nil _ _,
      fun piece member =>
        ⟨full piece member, Text.separator_not_mem_of_mem_pieces member⟩⟩
  else .error (.emptySegment text)

def text (path : Path) : String :=
  String.intercalate "." path.segments

end Path

end IdentityClaims
