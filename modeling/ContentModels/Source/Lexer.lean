import ContentModels.Source.Lexer.Literal

/-!
# From source text to tokens

Blanks and comments separate tokens and are dropped, except for documentation comments, which stand
for attributes. The text is refused at the first place where no token can be read, where a closing
delimiter does not match, or, at the end, where the innermost open group starts.

## Main definitions

* `Lexer.skip` — drops blanks and comments.
* `Lexer.leaf` — reads one token that is not a group.
* `tokenize` — reads a whole text.
-/

namespace ContentModels.Source

open Text

namespace Lexer

/-- The rest of a block comment after its opening: the comment and what follows it. Block comments
nest. -/
def blockComment : (depth : Nat) → List Char → Option (List Char × List Char)
  | _, [] => none
  | depth, '/' :: '*' :: rest =>
    (blockComment (depth + 1) rest).map fun (text, after) => ('/' :: '*' :: text, after)
  | depth, '*' :: '/' :: rest =>
    if depth ≤ 1 then some ([], rest)
    else (blockComment (depth - 1) rest).map fun (text, after) => ('*' :: '/' :: text, after)
  | depth, c :: rest => (blockComment depth rest).map fun (text, after) => (c :: text, after)

/-- The text up to the end of the line, with what follows it; the line break stays. -/
def lineRest : List Char → List Char × List Char
  | [] => ([], [])
  | '\n' :: rest => ([], '\n' :: rest)
  | '\r' :: '\n' :: rest => ([], '\n' :: rest)
  | c :: rest => let (line, after) := lineRest rest; (c :: line, after)

/-- Blanks between tokens, among them the two marks of writing direction. -/
def isGap (c : Char) : Bool := isBlank c || c.toNat = 0x200e || c.toNat = 0x200f

/-- Drops blanks and plain comments at the start of a text. -/
def skip : Nat → List Char → List Char
  | 0, cs => cs
  | fuel + 1, cs =>
    match cs with
    | '/' :: '/' :: '!' :: _ => cs
    | '/' :: '/' :: '/' :: '/' :: rest => skip fuel (lineRest rest).2
    | '/' :: '/' :: '/' :: _ => cs
    | '/' :: '/' :: rest => skip fuel (lineRest rest).2
    | '/' :: '*' :: '*' :: '/' :: rest => skip fuel rest
    | '/' :: '*' :: '!' :: _ => cs
    | '/' :: '*' :: '*' :: '*' :: rest => skipBlock fuel ('*' :: '*' :: rest) cs
    | '/' :: '*' :: '*' :: _ => cs
    | '/' :: '*' :: rest => skipBlock fuel rest cs
    | c :: rest => if isGap c then skip fuel rest else cs
    | [] => []
termination_by fuel => (fuel, 0)
where
  /-- Goes on after a block comment; a comment without end stays. -/
  skipBlock (fuel : Nat) (rest whole : List Char) : List Char :=
    match blockComment 1 rest with
    | some (_, after) => skip fuel after
    | none => whole
  termination_by (fuel, 1)

/-- Whether every carriage return of a comment is part of a line break. -/
def noLoneReturn : List Char → Bool
  | [] => true
  | '\r' :: '\n' :: rest => noLoneReturn rest
  | '\r' :: _ => false
  | _ :: rest => noLoneReturn rest

/-- A documentation comment: its text, whether it documents what encloses it, and what follows. -/
def docComment (cs : List Char) : Option (List Char × Bool × List Char) := do
  let (text, inner, rest) ← match cs with
    | '/' :: '/' :: '!' :: rest => let (line, after) := lineRest rest; some (line, true, after)
    | '/' :: '*' :: '!' :: rest =>
      (blockComment 1 rest).map fun (text, after) => (text, true, after)
    | '/' :: '/' :: '/' :: '/' :: _ => none
    | '/' :: '/' :: '/' :: rest => let (line, after) := lineRest rest; some (line, false, after)
    | '/' :: '*' :: '*' :: '*' :: _ => none
    | '/' :: '*' :: '*' :: rest =>
      (blockComment 1 rest).map fun (text, after) => (text, false, after)
    | _ => none
  if noLoneReturn text then some (text, inner, rest) else none

/-- The attribute that a documentation comment stands for. -/
def docAttribute (text : List Char) (inner : Bool) (p : Position) : List Token :=
  [Token.punct '#' false p] ++ (if inner then [Token.punct '!' false p] else []) ++
    [Token.group .bracket
      [.word "doc" p, .punct '=' false p, .literal (.text (String.ofList text)) p] p p]

/-- The characters that are punctuation on their own, the apostrophe apart. -/
def punctuation : List Char := "~!@#$%^&*-=+|;:,<.>/?".toList

/-- Whether a comment starts here. -/
def opensComment : List Char → Bool
  | '/' :: '/' :: _ => true
  | '/' :: '*' :: _ => true
  | _ => false

/-- Whether the text starts with punctuation. -/
def opensPunct (cs : List Char) : Bool :=
  !opensComment cs && cs.head?.any fun c => c == '\'' || punctuation.contains c

/-- The openings that belong to literals alone, so that no identifier starts there. -/
def opensLiteral : List Char → Bool
  | 'r' :: '"' :: _ => true
  | 'r' :: '#' :: '"' :: _ => true
  | 'r' :: '#' :: '#' :: _ => true
  | 'b' :: '"' :: _ => true
  | 'b' :: '\'' :: _ => true
  | 'b' :: 'r' :: '"' :: _ => true
  | 'b' :: 'r' :: '#' :: _ => true
  | 'c' :: '"' :: _ => true
  | 'c' :: 'r' :: '"' :: _ => true
  | 'c' :: 'r' :: '#' :: _ => true
  | _ => false

/-- A lifetime after its apostrophe. It is none if a second apostrophe or a stray number sign
follows. -/
def lifetime (cs : List Char) : Option (List Char × List Char) := do
  let (name, after) ← anyIdent cs
  let raw := match cs with
    | 'r' :: '#' :: _ => true
    | _ => false
  match after with
  | '\'' :: _ => none
  | '#' :: _ => if raw then some (name, after) else none
  | _ => some (name, after)

/-- One token that is not a group, with what follows it. -/
def leaf (p : Position) (cs : List Char) : Option (Token × List Char) :=
  match literal cs with
  | some (value, rest) => some (.literal value p, rest)
  | none =>
    match cs with
    | '\'' :: rest =>
      match lifetime rest with
      | some (name, after) =>
        if (literal rest).isSome then some (.punct '\'' true p, rest)
        else some (.lifetime (String.ofList name) p, after)
      | none => none
    | c :: rest =>
      if opensPunct cs then some (.punct c (opensPunct rest) p, rest)
      else if opensLiteral cs then none
      else (anyIdent cs).map fun (name, after) => (.word (String.ofList name) p, after)
    | [] => none

/-- A group whose closing delimiter has not been read yet, with the tokens before it, the last one
first. -/
structure OpenGroup where
  delimiter : Delimiter
  pos : Position
  before : List Token

/-- The place after the characters that lie between a text and what is left of it. -/
def moved (p : Position) (cs rest : List Char) : Position :=
  p.advance (cs.take (cs.length - rest.length))

/-- Reads tokens to the end of a text; `read` holds those of the innermost group, the last one
first. An error is the place where reading stopped. -/
def run : Nat → List OpenGroup → (read : List Token) → Position → List Char →
    Except Position (List Token)
  | 0, _, _, p, _ => .error p
  | fuel + 1, outer, read, p, cs =>
    let start := skip (cs.length + 1) cs
    let p := moved p cs start
    match docComment start with
    | some (text, inner, rest) =>
      run fuel outer ((docAttribute text inner p).reverse ++ read) (moved p start rest) rest
    | none =>
      match start with
      | [] =>
        match outer with
        | [] => .ok read.reverse
        | open_ :: _ => .error open_.pos
      | c :: rest =>
        match Delimiter.ofOpening c with
        | some d => run fuel (⟨d, p, read⟩ :: outer) [] (p.step c) rest
        | none =>
          match Delimiter.ofClosing c with
          | some d =>
            match outer with
            | [] => .error p
            | open_ :: outer =>
              if open_.delimiter = d then
                run fuel outer (.group d read.reverse open_.pos p :: open_.before) (p.step c) rest
              else .error p
          | none =>
            match leaf p start with
            | some (token, rest) => run fuel outer (token :: read) (moved p start rest) rest
            | none => .error p

end Lexer

/-- The tokens of a text, or the place where the text stops being one of tokens. -/
def tokenize (cs : List Char) : Except Position (List Token) :=
  Lexer.run (cs.length + 1) [] [] {} cs

end ContentModels.Source
