import ContentModels.Text.Cluster

/-!
# Words of a name

A name falls into words at separators, at changes of case, and between letters and digits. The two
styles built from the words are `PascalCase` and `snake_case`.

## Main definitions

* `Text.words` — the words of a name, empty ones included.
* `Text.pascal`, `Text.snake` — the two styles.
-/

namespace ContentModels.Text

/-- What happens before a cluster. -/
inductive WordBreak where
  /-- The word goes on. -/
  | none
  /-- The cluster is a separator: the word ends and the cluster is dropped. -/
  | separator
  /-- The word ends after the cluster. -/
  | after
  deriving DecidableEq, Repr

def isSeparator (cluster : Cluster) : Bool :=
  cluster == ['_'] || cluster == ['-'] || cluster == [' ']

/-- How the text breaks at `c`, followed by the clusters `rest`. A word ends after a small letter
before a capital, between a letter and a digit on either side, and before the last capital of a run
of capitals that a small letter follows. -/
def breakAt (c : Cluster) (rest : List Cluster) : WordBreak :=
  if isSeparator c then .separator
  else
    match rest with
    | [] => .none
    | d :: more =>
      let letter (x : Cluster) := isSmallCluster x || isCapitalCluster x
      if isSmallCluster c && isCapitalCluster d then .after
      else if isCapitalCluster c && isCapitalCluster d && (more.head?.any isSmallCluster) then
      .after else if letter c && isDigitCluster d then .after
      else if isDigitCluster c && letter d then .after
      else .none

/-- The words of a list of clusters. -/
def clusterWords : List Cluster → List (List Cluster)
  | [] => [[]]
  | c :: rest =>
    match breakAt c rest with
    | .separator => [] :: clusterWords rest
    | .after => [c] :: clusterWords rest
    | .none =>
      match clusterWords rest with
      | [] => [[c]]
      | word :: more => (c :: word) :: more

/-- The words of a name; two separators side by side have an empty word between them. -/
def words (cs : List Char) : List (List Cluster) :=
  match cs with
  | [] => []
  | _ => clusterWords (clusters cs)

/-- A word in small letters. -/
def smallWord (word : List Cluster) : List Char := toSmall word.flatten

/-- A word in small letters after a capital. The first letter is one of ASCII in every name this is
applied to, so only such a letter is made a capital. -/
def capitalWord : List Cluster → List Char
  | [] => []
  | c :: rest => c.map Char.toUpper ++ toSmall rest.flatten

/-- `PascalCase`: the words run together, each with a capital. -/
def pascal (cs : List Char) : List Char := (words cs).flatMap capitalWord

/-- `snake_case`: the words in small letters, joined by underscores. -/
def snake (cs : List Char) : List Char := ['_'].intercalate ((words cs).map smallWord)

end ContentModels.Text
