/-!
# Tokens of source text

A source file is a sequence of token trees: words, punctuation, lifetimes, literals, and groups that
hold the tokens between a pair of delimiters. Each token knows where it starts, and a group also
where its closing delimiter stands, since an error at the end of a group points there.
-/

namespace ContentModels.Source

/-- A place in a source text; lines and columns count from one, columns in characters. -/
structure Position where
  line : Nat := 1
  column : Nat := 1
  deriving DecidableEq, Repr, Inhabited

/-- The place after one more character. -/
def Position.step (p : Position) (c : Char) : Position :=
  if c = '\n' then ⟨p.line + 1, 1⟩ else ⟨p.line, p.column + 1⟩

/-- The place after more characters. -/
def Position.advance (p : Position) (cs : List Char) : Position := cs.foldl Position.step p

theorem Position.advance_append (p : Position) (a b : List Char) :
    p.advance (a ++ b) = (p.advance a).advance b := by
  simp [Position.advance]

/-- The brackets that make a group. -/
inductive Delimiter where
  | parenthesis
  | bracket
  | brace
  deriving DecidableEq, Repr

/-- The group that a character opens. -/
def Delimiter.ofOpening : Char → Option Delimiter
  | '(' => some .parenthesis
  | '[' => some .bracket
  | '\x7b' => some .brace
  | _ => none

/-- The group that a character closes. -/
def Delimiter.ofClosing : Char → Option Delimiter
  | ')' => some .parenthesis
  | ']' => some .bracket
  | '\x7d' => some .brace
  | _ => none

/-- The character that closes a group. -/
def Delimiter.closing : Delimiter → Char
  | .parenthesis => ')'
  | .bracket => ']'
  | .brace => '\x7d'

/-- A literal, as far as a reader of source text has to tell literals apart. -/
inductive Literal where
  /-- A string with its value. -/
  | text (value : String)
  /-- An integer with its value and type suffix. -/
  | integer (value : Nat) (suffix : String)
  /-- A floating point number as written. -/
  | float (written : String)
  /-- A character, a byte, a byte string or a C string. -/
  | other
  deriving DecidableEq, Repr

/-- A token tree. -/
inductive Token where
  /-- An identifier or keyword as written, a raw one with its `r#`. -/
  | word (text : String) (pos : Position)
  /-- One punctuation character; `joint` tells that another follows at once. -/
  | punct (char : Char) (joint : Bool) (pos : Position)
  /-- A lifetime without its apostrophe. -/
  | lifetime (name : String) (pos : Position)
  | literal (value : Literal) (pos : Position)
  /-- The tokens between two delimiters. -/
  | group (delimiter : Delimiter) (content : List Token) (pos close : Position)
  deriving Repr

/-- Where a token starts. -/
def Token.pos : Token → Position
  | .word _ p => p
  | .punct _ _ p => p
  | .lifetime _ p => p
  | .literal _ p => p
  | .group _ _ p _ => p

mutual
/-- The number of tokens in a tree, its own group included. -/
def Token.size : Token → Nat
  | .group _ content _ _ => 1 + Token.listSize content
  | _ => 1

/-- The number of tokens in a list of trees. -/
def Token.listSize : List Token → Nat
  | [] => 0
  | t :: rest => t.size + Token.listSize rest
end

end ContentModels.Source
