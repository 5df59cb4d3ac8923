/-!
# Similar words

Two words are alike in so far as they have the same letters at about the same places and in the same
order.

## Main definitions

* `Likeness` — how much two words are alike.
* `similar` — the words that are enough like another one.
-/

namespace ContentModels.Text

/-- How much two words are alike: a share of one. -/
structure Likeness where
  part : Nat
  whole : Nat
  deriving DecidableEq, Repr

/-- Whether one share is smaller than another one. -/
def Likeness.less (a b : Likeness) : Bool := a.part * b.whole < b.part * a.whole

/-- For the letters of `a`, the first of which has index `i`, which ones of `b` they match. A letter
matches the first one like it that is no further away than `range` and that no letter matched
before; these are in `taken`. -/
def matchLetters (range : Nat) (b : List Char) :
    (i : Nat) → List Nat → List Char → List (Option Nat)
  | _, _, [] => []
  | i, taken, c :: rest =>
    let place? := (List.range b.length).find? fun j =>
      i ≤ j + range && j ≤ i + range && b[j]? == some c && !taken.contains j
    place? :: matchLetters range b (i + 1) (place?.toList ++ taken) rest

/-- How many letters of two lists differ, place by place. -/
def mismatches (a b : List Char) : Nat := ((a.zip b).filter fun (c, d) => c != d).length

/-- How much two words are alike. -/
def likeness (a b : List Char) : Likeness :=
  let range := max a.length b.length / 2 - 1
  let found := matchLetters range b 0 [] a
  let count := (found.filterMap id).length
  if a.isEmpty ∧ b.isEmpty then ⟨1, 1⟩
  else if count = 0 then ⟨0, 1⟩
  else
    let fromA := (a.zip found).filterMap fun (c, j) => j.map fun _ => c
    let fromB := (b.zip (List.range b.length)).filterMap fun (c, j) =>
      if found.contains (some j) then some c else none
    let swaps := mismatches fromA fromB / 2
    ⟨count * count * b.length + count * count * a.length + (count - swaps) * a.length * b.length,
      3 * a.length * b.length * count⟩

/-- How much a word has to be like another one to be meant by it. -/
def threshold : Likeness := ⟨7, 10⟩

/-- The words that are enough like `word`, those that are most like it last. -/
def similar (word : String) (known : List String) : List String :=
  let rated := known.map fun k => (likeness word.toList k.toList, k)
  let good := rated.filter fun r => threshold.less r.1
  (good.mergeSort fun x y => !y.1.less x.1).map (·.2)

end ContentModels.Text
