import ContentModels.Toml.Error

/-!
# Tokens of TOML documents

A document falls into tokens without a rest: blanks, comments and line breaks are tokens too, and a
string that does not end is one up to the end of its line, or of the document. What is in a token is
looked at later.

## Main definitions

* `Toml.Token` — a part of a document with its place.
* `Toml.tokenize` — the tokens of a document.
-/

namespace ContentModels.Toml

open Text

inductive TokenKind where
  | dot
  | equals
  | comma
  | openBracket
  | closeBracket
  | openBrace
  | closeBrace
  | blank
  | comment
  | newline
  | string (quote : Quote)
  /-- Anything else up to a blank or punctuation. -/
  | atom
  /-- The end of the document. -/
  | finish
  deriving DecidableEq, Repr

/-- A part of a document, which starts at the byte `start`. -/
structure Token where
  kind : TokenKind
  text : List Char
  start : Nat
  deriving DecidableEq, Repr

/-- The part of the document that a token is. -/
def Token.span (t : Token) : Span := ⟨t.start, t.start + byteCount t.text⟩

def isTab (c : Char) : Bool := c == ' ' || c == '\t'

/-- Punctuation, and the kinds of tokens that it makes. -/
def punctuation : List (Char × TokenKind) := [
  ('.', .dot), ('=', .equals), (',', .comma), ('[', .openBracket), (']', .closeBracket),
  ('\x7b', .openBrace), ('\x7d', .closeBrace)]

def endsLine (c : Char) : Bool := c == '\r' || c == '\n'

/-- Whether a character ends an atom. -/
def endsAtom (c : Char) : Bool :=
  isTab c || endsLine c || c == '#' || (punctuation.lookup c).isSome

/-! ## Lengths of strings -/

/-- How many characters belong to a literal string whose opening quote was read. -/
def literalLength : List Char → Nat
  | [] => 0
  | '\'' :: _ => 1
  | '\n' :: _ => 0
  | _ :: rest => literalLength rest + 1

/-- How many characters belong to a basic string whose opening quote was read. -/
def basicLength : List Char → Nat
  | [] => 0
  | '"' :: _ => 1
  | '\n' :: _ => 0
  | '\\' :: '\\' :: rest => basicLength rest + 2
  | '\\' :: '"' :: rest => basicLength rest + 2
  | _ :: rest => basicLength rest + 1

/-- How many of the quotes that come next belong to a string of several lines: two at most. -/
def extraQuotes (q : Char) (cs : List Char) : Nat := ((cs.take 2).takeWhile (· == q)).length

/-- How many characters belong to a literal string of several lines whose opening quotes were
read. -/
def multiLiteralLength : List Char → Nat
  | [] => 0
  | '\'' :: '\'' :: '\'' :: rest => 3 + extraQuotes '\'' rest
  | _ :: rest => multiLiteralLength rest + 1

/-- How many characters belong to a basic string of several lines whose opening quotes were read. -/
def multiBasicLength : List Char → Nat
  | [] => 0
  | '"' :: '"' :: '"' :: rest => 3 + extraQuotes '"' rest
  | '\\' :: '\\' :: rest => multiBasicLength rest + 2
  | '\\' :: '"' :: rest => multiBasicLength rest + 2
  | _ :: rest => multiBasicLength rest + 1

/-! ## Tokens -/

/-- The kind of the token that starts with `c`, and how many of the characters behind `c` belong to
it. -/
def classify (c : Char) (rest : List Char) : TokenKind × Nat :=
  match punctuation.lookup c with
  | some kind => (kind, 0)
  | none =>
    if isTab c then (.blank, (rest.takeWhile isTab).length)
    else if c = '\n' then (.newline, 0)
    else if c = '\r' then (.newline, if rest.head? = some '\n' then 1 else 0)
    else if c = '#' then (.comment, (rest.takeWhile fun d => !endsLine d).length)
    else if c = '\'' then
      match rest with
      | '\'' :: '\'' :: more => (.string .multiLiteral, multiLiteralLength more + 2)
      | _ => (.string .literal, literalLength rest)
    else if c = '"' then
      match rest with
      | '"' :: '"' :: more => (.string .multiBasic, multiBasicLength more + 2)
      | _ => (.string .basic, basicLength rest)
    else (.atom, (rest.takeWhile fun d => !endsAtom d).length)

/-- The tokens of what is left of a document from the byte `start` on. -/
def tokensFrom (start : Nat) : List Char → List Token
  | [] => [⟨.finish, [], start⟩]
  | c :: rest =>
    let (kind, more) := classify c rest
    let t : Token := ⟨kind, c :: rest.take more, start⟩
    t :: tokensFrom t.span.stop (rest.drop more)
termination_by cs => cs.length
decreasing_by simp only [List.length_drop, List.length_cons]; omega

/-- The tokens of a document. A mark of byte order at its start is passed over. -/
def tokenize : List Char → List Token
  | '\ufeff' :: rest => tokensFrom ('\ufeff').utf8Size rest
  | cs => tokensFrom 0 cs

/-- Nothing is lost when a text is cut into tokens. -/
theorem flatMap_text_tokensFrom (start : Nat) (cs : List Char) :
    (tokensFrom start cs).flatMap Token.text = cs := by
  fun_induction tokensFrom start cs with
  | case1 => rfl
  | case2 start c rest kind more h t ih =>
    rw [List.flatMap_cons, ih]
    simp [t]

end ContentModels.Toml
