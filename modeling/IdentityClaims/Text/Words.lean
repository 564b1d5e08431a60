import IdentityClaims.Text.Cluster
import IdentityClaims.Text.Lowercase

/-!
# Words of a name

A name in small letters falls into words at its hyphens, underscores and spaces, and between a
letter and a digit. What counts are whole clusters: a hyphen with a mark on it parts nothing, and
a digit with a mark is no digit.
-/

namespace IdentityClaims.Text

/-- The clusters between words, which belong to none. -/
def isWordBreak (cluster : List Char) : Bool :=
  cluster == ['_'] || cluster == ['-'] || cluster == [' ']

def isDigitCluster (cluster : List Char) : Bool :=
  cluster.all Char.isDigit

/-- Whether a cluster holds a letter that has a capital. -/
def isSmallCluster (cluster : List Char) : Bool :=
  cluster.any isSmallLetter

/-- Whether a word ends between two clusters. -/
def partsWords (left right : List Char) : Bool :=
  isSmallCluster left && isDigitCluster right || isDigitCluster left && isSmallCluster right

/-- The clusters up to where the first word ends, and the pieces after it. Pieces may be empty. -/
def wordPieces : List (List Char) → List Char × List (List Char)
  | [] => ([], [])
  | cluster :: rest =>
    let (first, others) := wordPieces rest
    if isWordBreak cluster then ([], first :: others)
    else if rest.head?.any (partsWords cluster) then (cluster, first :: others)
    else (cluster ++ first, others)

/-- The words of a name, none of them empty. -/
def words (name : List Char) : List (List Char) :=
  let (first, others) := wordPieces (clusters name)
  (first :: others).filter (· ≠ [])

/-- A name with its words joined by single underscores. -/
def underscored (name : List Char) : List Char :=
  List.intercalate ['_'] (words name)

end IdentityClaims.Text
