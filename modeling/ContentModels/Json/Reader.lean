import ContentModels.Json.Error

/-!
# Reading JSON documents

A document is read for the type that is wanted, from the front, and the first thing that does not
fit ends the reading. So an error of type may come before an error of syntax further on.

## Main definitions

* `Json.Reader` — what reads a document.
* `Json.Reader.run` — reads a whole document.
* `Json.Reader.text`, `Json.Reader.bool` and others — readers of single values, in modules of their
  own.
-/

namespace ContentModels.Json

/-- Where reading stopped: what was left of the document, and how many bytes of that belong to what
was looked at. -/
structure Failure where
  fault : Fault
  rest : List Char
  ahead : Nat

/-- A reader of what is left of a document. -/
abbrev Reader := StateT (List Char) (Except Failure)

namespace Reader

/-- Fails behind what was read, and `ahead` bytes. -/
def fail {α : Type} (fault : Fault) (ahead : Nat := 0) : Reader α := do
  throw ⟨fault, ← get, ahead⟩

/-- Fails at the next character. -/
def failHere {α : Type} (fault : Fault) : Reader α := fail fault 1

/-- The next character, which is not read. -/
def next? : Reader (Option Char) := return (← get).head?

/-- Reads a character. -/
def drop : Reader Unit := modify List.tail

/-- Blanks between the parts of a document. -/
def isGap (c : Char) : Bool := c == ' ' || c == '\n' || c == '\t' || c == '\r'

/-- Skips blanks; answers the next character, which is not read. -/
def gap : Reader (Option Char) := do
  modify (List.dropWhile isGap)
  next?

/-- Reads the rest of a word whose first letter was read. -/
def finishWord : List Char → Reader Unit
  | [] => return
  | c :: more => do
    match ← next? with
    | none => fail (.endOfInput .value)
    | some d =>
      if c = d then do drop; finishWord more
      else fail .expectedWord 1

/-- Runs `body` until it answers nothing, at most `fuel` times. -/
def repeatFor {α : Type} (body : Reader (Option α)) : Nat → Reader (List α)
  | 0 => return []
  | fuel + 1 => do
    match ← body with
    | some value => return value :: (← repeatFor body fuel)
    | none => return []

/-- Runs `body` until it answers nothing. Every run reads a character, so what is left of the
document bounds the number of runs. -/
def repeatUntil {α : Type} (body : Reader (Option α)) : Reader (List α) := do
  repeatFor body ((← get).length + 1)

/-- The error that a failure is in a document. -/
def errorIn (document : List Char) (f : Failure) : Error :=
  let read := document.take (document.length - f.rest.length)
  ⟨f.fault, (Place.after {} read).afterBytes f.ahead f.rest⟩

/-- Reads a whole document. -/
def run {α : Type} (p : Reader α) (document : String) : Except Error α :=
  let cs := document.toList
  let whole : Reader α := do
    let value ← p
    if (← gap).isSome then failHere .trailingCharacters
    return value
  match whole cs with
  | .ok (value, _) => .ok value
  | .error f => .error (errorIn cs f)

end Reader

end ContentModels.Json
