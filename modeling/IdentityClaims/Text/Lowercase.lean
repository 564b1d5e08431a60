import IdentityClaims.Text.Cased
import IdentityClaims.Text.Uppercase

/-!
# Lowering a whole text

Uppercase and titlecase characters are lowered one at a time, the capital sigma excepted: its
small letter is the final sigma at the end of a word, and the common one everywhere else.
-/

namespace IdentityClaims.Text

/-- The titlecase characters, in ascending order (Unicode 17). -/
def titlecaseRuns : List CaseRun :=
  [⟨0x1C5, 0x1C5, 1, 1⟩, ⟨0x1C8, 0x1C8, 1, 1⟩, ⟨0x1CB, 0x1CB, 1, 1⟩, ⟨0x1F2, 0x1F2, 1, 1⟩,
   ⟨0x1F88, 0x1F8F, 1, -8⟩, ⟨0x1F98, 0x1F9F, 1, -8⟩, ⟨0x1FA8, 0x1FAF, 1, -8⟩,
   ⟨0x1FBC, 0x1FBC, 1, -9⟩, ⟨0x1FCC, 0x1FCC, 1, -9⟩, ⟨0x1FFC, 0x1FFC, 1, -9⟩]

/-- The full lowercase mapping of any character, whatever stands around it. -/
def lowerLetter (c : Char) : List Char :=
  match titlecaseRuns.find? (·.contains c.toNat) with
  | some run => [run.lower c.toNat]
  | none => lowercase c

/-- Whether the nearest neighbour that is not ignored belongs to a case. -/
def meetsCased (neighbours : List Char) : Bool :=
  (neighbours.dropWhile isCaseIgnorable).head?.any isCased

/-- The small letter of a capital sigma between its neighbours, the nearest ones first. -/
def lowerSigma (before after : List Char) : Char :=
  if meetsCased before && !meetsCased after then 'ς' else 'σ'

/-- Lowers characters that follow others, the nearest of which comes first. -/
def lowerAfter (before : List Char) : List Char → List Char
  | [] => []
  | c :: rest =>
    (if c = 'Σ' then [lowerSigma before rest] else lowerLetter c) ++ lowerAfter (c :: before) rest

def lowerText (text : String) : String :=
  String.ofList (lowerAfter [] text.toList)

/-- Bounds of the small letters that have a capital and are not what any capital is lowered to. -/
def unpairedSmallBounds : List Nat :=
  [0xB5, 0xB6, 0x131, 0x132, 0x149, 0x14A, 0x17F, 0x180, 0x1F0, 0x1F1, 0x345, 0x346, 0x390, 0x391,
   0x3B0, 0x3B1, 0x3C2, 0x3C3, 0x3D0, 0x3D2, 0x3D5, 0x3D7, 0x3F0, 0x3F2, 0x3F5, 0x3F6, 0x587, 0x588,
   0x1C80, 0x1C89, 0x1E96, 0x1E9C, 0x1F50, 0x1F51, 0x1F52, 0x1F53, 0x1F54, 0x1F55, 0x1F56, 0x1F57,
   0x1FB2, 0x1FB3, 0x1FB4, 0x1FB5, 0x1FB6, 0x1FB8, 0x1FBE, 0x1FBF, 0x1FC2, 0x1FC3, 0x1FC4, 0x1FC5,
   0x1FC6, 0x1FC8, 0x1FD2, 0x1FD4, 0x1FD6, 0x1FD8, 0x1FE2, 0x1FE5, 0x1FE6, 0x1FE8, 0x1FF2, 0x1FF3,
   0x1FF4, 0x1FF5, 0x1FF6, 0x1FF8, 0xFB00, 0xFB07, 0xFB13, 0xFB18]

/-- Whether a character is what some uppercase or titlecase character is lowered to. -/
def isLowered (c : Char) : Bool :=
  (uppercaseRuns ++ titlecaseRuns).any fun run =>
    run.shift ≠ 0 && run.contains ((c.toNat : Int) - run.shift).toNat

def isSmallLetter (c : Char) : Bool :=
  isLowered c || inSpans unpairedSmallBounds c.toNat

end IdentityClaims.Text
