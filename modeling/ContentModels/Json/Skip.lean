import ContentModels.Json.Number
import ContentModels.Json.Text

/-!
# Reading over values

A field that a document has and nobody asked for may hold any value. It is read over, at any depth
of nesting, with the containers that are open kept in a list.
-/

namespace ContentModels.Json.Reader

/-- A container that is being read over. -/
inductive Frame where
  | list
  | object
  deriving DecidableEq, Repr

def Frame.closing : Frame → Char
  | .list => ']'
  | .object => '\x7d'

/-- The fault of a document that ends in the container. -/
def Frame.unclosed : Frame → Fault
  | .list => .endOfInput .list
  | .object => .endOfInput .object

/-- The fault of a document that does not go on after a value in the container. -/
def Frame.noSeparator : Frame → Fault
  | .list => .expectedListEnd
  | .object => .expectedObjectEnd

/-- Reads over what stands before a value in a container: nothing, or a key with its colon. -/
def skipKey : Frame → Reader Unit
  | .list => return
  | .object => do
    match ← gap with
    | some '"' => drop
    | some _ => failHere .keyNotText
    | none => failHere (.endOfInput .object)
    skipString
    match ← gap with
    | some ':' => drop
    | some _ => failHere .expectedColon
    | none => failHere (.endOfInput .object)

/-- Reads over a value that is no container, which starts with `c`. -/
def skipScalar (c : Char) : Reader Unit := do
  if c = 'n' then do drop; finishWord "ull".toList
  else if c = 't' then do drop; finishWord "rue".toList
  else if c = 'f' then do drop; finishWord "alse".toList
  else if c = '-' then do drop; skipNumber
  else if c.isDigit then skipNumber
  else if c = '"' then do drop; skipString
  else failHere .expectedValue

mutual

/-- Reads over a value and over what is left of the open containers. -/
def skipFrom : (fuel : Nat) → List Frame → Reader Unit
  | 0, _ => return
  | fuel + 1, frames => do
    match ← gap with
    | none => failHere (.endOfInput .value)
    | some '[' => do drop; settle fuel false (.list :: frames)
    | some '\x7b' => do drop; settle fuel false (.object :: frames)
    | some c => do skipScalar c; settle fuel true frames

/-- Reads over what is left of the open containers; `comma` tells that a value was read in the
innermost one. -/
def settle : (fuel : Nat) → (comma : Bool) → List Frame → Reader Unit
  | 0, _, _ => return
  | _, _, [] => return
  | fuel + 1, comma, frame :: outer => do
    match ← gap with
    | none => failHere frame.unclosed
    | some c =>
      if comma && c = ',' then
        drop
        skipKey frame
        skipFrom fuel (frame :: outer)
      else if c = frame.closing then
        drop
        settle fuel true outer
      else if comma then failHere frame.noSeparator
      else
        skipKey frame
        skipFrom fuel (frame :: outer)

end

/-- Reads over a value. -/
def skipValue : Reader Unit := do
  skipFrom (3 * (← get).length + 4) []

end ContentModels.Json.Reader
