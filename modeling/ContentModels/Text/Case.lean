import ContentModels.Text.CaseTable

/-!
# Changing case

The change to small letters of the Unicode standard, with its two special rules: a capital I with a
dot keeps the dot as a mark of its own, and a capital sigma takes its final form at the end of a
word. The change to capitals is needed only as a question: does it alter a character?
-/

namespace ContentModels.Text

/-- The small letter of a character outside ASCII, by the table of runs. -/
def smallCode (code : Nat) : Nat :=
  match capitalRuns.find? fun r =>
      r.first ≤ code && code ≤ r.last && (code - r.first) % r.stride == 0 with
  | some r => r.target + (code - r.first)
  | none => code

/-- The small form of a character, without regard to its neighbours. -/
def smallForm (c : Char) : List Char :=
  if c.toNat < 0x80 then [c.toLower]
  else if c.toNat = 0x130 then ['i', Char.ofNat 0x307]
  else [Char.ofNat (smallCode c.toNat)]

/-- Whether the change to small letters leaves a character as it is. -/
def isSmallStable (c : Char) : Bool := smallForm c == [c]

/-- Whether the change to capitals leaves a character as it is. -/
def isCapitalStable (c : Char) : Bool :=
  if c.toNat < 0x80 then !c.isLower
  else !capitalisable.any fun r =>
    r.first ≤ c.toNat && c.toNat ≤ r.last && (c.toNat - r.first) % r.stride == 0

/-- Whether a character has two cases that differ. -/
def hasCases (c : Char) : Bool := !(isSmallStable c && isCapitalStable c)

/-- Whether the first character that matters to case is a cased one. -/
def reachesCased (cs : List Char) : Bool :=
  match cs.dropWhile fun c => caseIgnorableCodes.has c.toNat with
  | [] => false
  | c :: _ => casedCodes.has c.toNat

/-- Small letters of the characters after `before`, which is held in reverse. A capital sigma that
ends a word becomes the final small sigma. -/
def toSmallAfter (before : List Char) : List Char → List Char
  | [] => []
  | c :: rest =>
    let small :=
      if c.toNat = 0x3a3 then
        if reachesCased before && !reachesCased rest then [Char.ofNat 0x3c2] else [Char.ofNat 0x3c3]
      else smallForm c
    small ++ toSmallAfter (c :: before) rest

/-- The text in small letters. -/
def toSmall (cs : List Char) : List Char := toSmallAfter [] cs

/-- The text with its ASCII letters made small. -/
def asciiSmall (s : String) : String := String.ofList (s.toList.map Char.toLower)

end ContentModels.Text
