/-!
# Patterns of file names

A question mark stands for any character, a star for any characters, and brackets for one of some
characters, or for any other one if they start with an exclamation mark. Two stars that are a whole
piece of a path stand for directories of any depth.

## Main definitions

* `Glob.Token` — a part of a pattern.
* `Glob.parse` — reads a pattern.
* `Glob.matchesName` — whether a name matches a pattern.
-/

namespace ContentModels.Glob

/-- The characters from one to another, ends included. -/
structure CharRange where
  first : Char
  last : Char
  deriving DecidableEq, Repr

/-- A part of a pattern. -/
inductive Token where
  | char (c : Char)
  | anyChar
  | oneOf (ranges : List CharRange)
  | noneOf (ranges : List CharRange)
  | anyChars
  /-- Directories of any depth. -/
  | anyDepth
  deriving DecidableEq, Repr

/-- Why a text is no pattern. -/
inductive PatternFault where
  /-- More than two stars in a row. -/
  | stars
  /-- Brackets that are not closed, or empty. -/
  | brackets
  /-- Two stars that are only a part of a piece. -/
  | depth
  deriving DecidableEq, Repr

def PatternFault.message : PatternFault → String
  | stars => "wildcards are either regular `*` or recursive `**`"
  | brackets => "invalid range pattern"
  | depth => "recursive wildcards must form a single path component"

/-- What is wrong with a pattern, and where, counted in characters. -/
structure PatternError where
  pos : Nat
  fault : PatternFault
  deriving DecidableEq, Repr

def PatternError.message (e : PatternError) : String :=
  s!"Pattern syntax error near position {e.pos}: {e.fault.message}"

/-! ## Reading -/

/-- The ranges between brackets. -/
def ranges : List Char → List CharRange
  | a :: '-' :: b :: rest => ⟨a, b⟩ :: ranges rest
  | a :: rest => ⟨a, a⟩ :: ranges rest
  | [] => []

/-- What is between brackets, and how much of the text it takes. The first character never closes.
-/
def bracket : List Char → Option (Token × Nat)
  | '!' :: first :: rest =>
    let inside := rest.takeWhile (· != ']')
    if inside.length < rest.length then some (.noneOf (ranges (first :: inside)), inside.length + 3)
    else none
  | '!' :: [] => none
  | first :: rest =>
    let inside := rest.takeWhile (· != ']')
    if inside.length < rest.length then some (.oneOf (ranges (first :: inside)), inside.length + 2)
    else none
  | [] => none

/-- Reads a pattern, given the character before it and its position. -/
def parse (before : Option Char) (pos : Nat) (cs : List Char) : Except PatternError (List Token) :=
  match cs with
  | [] => .ok []
  | '?' :: rest => do return .anyChar :: (← parse (some '?') (pos + 1) rest)
  | '*' :: '*' :: '*' :: _ => .error ⟨pos + 2, .stars⟩
  | '*' :: '*' :: rest =>
    if before.all (· == '/') then
      match rest with
      | [] => .ok [.anyDepth]
      | '/' :: rest => do return .anyDepth :: (← parse (some '/') (pos + 3) rest)
      | _ => .error ⟨pos + 2, .depth⟩
    else .error ⟨pos - 1, .depth⟩
  | '*' :: rest => do return .anyChars :: (← parse (some '*') (pos + 1) rest)
  | '[' :: rest =>
    match bracket rest with
    | some (token, used) =>
      do return token :: (← parse (some ']') (pos + 1 + used) (rest.drop used))
    | none => .error ⟨pos, .brackets⟩
  | c :: rest => do return .char c :: (← parse (some c) (pos + 1) rest)
termination_by cs.length
decreasing_by all_goals (simp; try omega)

/-! ## Matching -/

def CharRange.contains (r : CharRange) (c : Char) : Bool := r.first ≤ c && c ≤ r.last

/-- Whether a character is one that a token stands for. -/
def Token.stands (token : Token) (c : Char) : Bool :=
  match token with
  | .char d => c == d
  | .anyChar => true
  | .oneOf ranges => ranges.any fun r => r.contains c
  | .noneOf ranges => !ranges.any fun r => r.contains c
  | .anyChars => true
  | .anyDepth => true

/-- Whether a token stands for any number of characters. -/
def Token.repeats : Token → Bool
  | .anyChars => true
  | .anyDepth => true
  | _ => false

/-- Whether the characters of a name match a pattern. -/
def matchesName (tokens : List Token) (name : List Char) : Bool :=
  match tokens, name with
  | [], name => name.isEmpty
  | token :: tokens, [] => token.repeats && matchesName tokens []
  | token :: tokens, c :: name =>
    if token.repeats then matchesName tokens (c :: name) || matchesName (token :: tokens) name
    else token.stands c && matchesName tokens name

/-- The only text that matches a pattern without any special characters. -/
def literal? : List Token → Option (List Char)
  | [] => some []
  | .char c :: rest => (literal? rest).map (c :: ·)
  | _ => none

end ContentModels.Glob
