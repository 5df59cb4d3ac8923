import ContentModels.Text.MarkTable
import ContentModels.Text.Case

/-!
# Letters with their marks

A word is split between letters, and a letter keeps the marks that attach to it. A cluster is such
a letter: leading signs, one character, and the marks that follow it.
-/

namespace ContentModels.Text

/-- A letter with its marks. -/
abbrev Cluster := List Char

def isAttachingMark (c : Char) : Bool := c.toNat ≥ 0x300 && attachingMarks.has c.toNat

def isLeadingSign (c : Char) : Bool := c.toNat ≥ 0x300 && leadingSigns.has c.toNat

def isControl (c : Char) : Bool := controlCodes.has c.toNat || c.toNat < 0x20 || c.toNat = 0x7f

/-- Whether the characters `a` and `b`, which stand side by side, belong to one cluster. -/
def joins (a b : Char) : Bool :=
  if isControl a || isControl b then a == '\r' && b == '\n'
  else isAttachingMark b || isLeadingSign a

/-- Puts a character before the clusters of the text that follows it. -/
def attach (c : Char) : List Cluster → List Cluster
  | (d :: cluster) :: more =>
    if joins c d then (c :: d :: cluster) :: more else [c] :: (d :: cluster) :: more
  | clusters => [c] :: clusters

/-- The clusters of a text. -/
def clusters (cs : List Char) : List Cluster := cs.foldr attach []

@[simp] theorem flatten_attach (c : Char) (l : List Cluster) :
    (attach c l).flatten = c :: l.flatten := by
  unfold attach
  split
  · split <;> simp
  · simp

/-- The clusters of a text hold all of it, in order. -/
@[simp] theorem flatten_clusters (cs : List Char) : (clusters cs).flatten = cs := by
  induction cs with
  | nil => rfl
  | cons c rest ih => simpa [clusters] using ih

/-- A cluster of digits. -/
def isDigitCluster (cluster : Cluster) : Bool := cluster.all Char.isDigit

/-- A capital letter: it has two cases and is written in capitals. -/
def isCapitalCluster (cluster : Cluster) : Bool :=
  cluster.any hasCases && cluster.all isCapitalStable

/-- A small letter: it has two cases and is written in small letters. -/
def isSmallCluster (cluster : Cluster) : Bool :=
  cluster.any hasCases && cluster.all isSmallStable

end ContentModels.Text
