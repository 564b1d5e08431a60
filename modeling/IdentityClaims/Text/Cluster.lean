import IdentityClaims.Text.Joining

/-!
# Clusters

The characters that are read as one: a letter with its marks, a Korean syllable, a flag,
pictographs that are joined, consonants that are linked. These are the extended grapheme
clusters of Unicode.
-/

namespace IdentityClaims.Text

/-- Whether linked consonants go on: the characters before, the nearest one first, are marks with
a linker among them, and a consonant. -/
def linksConsonant (before : List Joining) : Bool :=
  (before.takeWhile Joining.isConjunctMark).contains .linker &&
    (before.dropWhile Joining.isConjunctMark).head? == some .consonant

/-- Whether joined pictographs go on: the characters before, the nearest one first, are a joiner,
marks, and a pictograph. -/
def joinsPictograph : List Joining → Bool
  | .joiner :: before => (before.dropWhile Joining.isMark).head? == some .pictograph
  | _ => false

def opensFlag (before : List Joining) : Bool :=
  (before.takeWhile (· == .regional)).length % 2 == 1

/-- Whether a character belongs to the cluster of those before it, the nearest one first. -/
def continues (before : List Joining) (next : Joining) : Bool :=
  match before.head?, next with
  | none, _ | some .control, _ | _, .control => false
  | _, .mark | _, .linker | _, .joiner | _, .nonJoiner | _, .spacingMark => true
  | some .leadIn, _ => true
  | some .first, .first | some .first, .vowel | some .first, .openSyllable
  | some .first, .closedSyllable => true
  | some .openSyllable, .vowel | some .openSyllable, .last | some .vowel, .vowel
  | some .vowel, .last => true
  | some .closedSyllable, .last | some .last, .last => true
  | _, .consonant => linksConsonant before
  | _, .pictograph => joinsPictograph before
  | _, .regional => opensFlag before
  | _, _ => false

/-- Whether a cluster, written backwards, takes one more character. A carriage return and a line
feed are one, and no other control character joins anything. -/
def takesIn (cluster : List Char) (c : Char) : Bool :=
  cluster.head? == some '\r' && c == '\n' ||
    continues (cluster.map Joining.ofChar) (Joining.ofChar c)

/-- The clusters of a text whose first one has begun with some characters, written backwards. -/
def clustersFrom (begun : List Char) : List Char → List (List Char)
  | [] => [begun.reverse]
  | c :: rest =>
    if takesIn begun c then clustersFrom (c :: begun) rest
    else begun.reverse :: clustersFrom [c] rest

/-- The clusters of a text, none of them empty. -/
def clusters : List Char → List (List Char)
  | [] => []
  | c :: rest => clustersFrom [c] rest

end IdentityClaims.Text
