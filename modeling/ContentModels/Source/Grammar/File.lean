import ContentModels.Source.Lexer
import ContentModels.Source.Grammar.Item

/-!
# Reading a source file

The knot of the grammar: a grammar of depth `n + 1` uses one of depth `n` wherever a production
refers to another. A text is read at a depth that grows with its number of tokens, which bounds how
deeply it can be nested.

## Main definitions

* `Grammar.ofDepth` — the grammar up to a depth.
* `Source.items` — the items of a text, or why it is refused.
-/

namespace ContentModels.Source

/-- The grammar that reads what is nested no deeper than `n`. -/
def Grammar.ofDepth : Nat → Grammar
  | 0 => .nothing
  | n + 1 => {
      type plus := (ofDepth n).typeProduction plus
      unary structs := (ofDepth n).unaryProduction structs
      operators structs base form := (ofDepth n).operatorsProduction structs base form
      statementExpr := fun scope => (ofDepth n).statementExprProduction scope
      genericParam := fun scope => (ofDepth n).genericParamProduction scope
      genericArgument := fun scope => (ofDepth n).genericArgumentProduction scope
      pattern := fun scope => (ofDepth n).patternProduction scope
      statements := fun scope => (ofDepth n).statementsProduction scope
      item := fun scope => (ofDepth n).itemProduction scope
      useTree rootInside := (ofDepth n).useTreeProduction rootInside }

/-- The grammar for a list of tokens. -/
def Grammar.forTokens (tokens : List Token) : Grammar := .ofDepth (8 * Token.listSize tokens + 16)

/-- The items of a list of tokens, where `close` is the place to report an early end at. -/
def itemsOfTokens (tokens : List Token) : Except SyntaxError (List Item) :=
  let g := Grammar.forTokens tokens
  Parser.readAll (do g.innerAttributes; Parser.untilEnd g.item) {} tokens

/-- The text without the mark of byte order that may open it. -/
def withoutByteOrderMark : List Char → List Char
  | c :: rest => if c.toNat = 0xfeff then rest else c :: rest
  | [] => []

/-- The text without a first line that names an interpreter. Such a line starts with `#!` and is no
attribute; its line break stays. -/
def withoutInterpreter (cs : List Char) : List Char :=
  match cs with
  | '#' :: '!' :: rest =>
    match Lexer.skip (rest.length + 1) rest with
    | '[' :: _ => cs
    | _ => cs.dropWhile (· != '\n')
  | _ => cs

/-- The items of a source text, or why it is refused. -/
def items (content : String) : Except SyntaxError (List Item) := do
  match tokenize (withoutByteOrderMark <| withoutInterpreter <|
      withoutByteOrderMark content.toList) with
  | .error pos => throw ⟨.notTokens, false, pos⟩
  | .ok tokens => itemsOfTokens tokens

end ContentModels.Source
