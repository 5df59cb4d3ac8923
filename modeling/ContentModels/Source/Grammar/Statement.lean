import ContentModels.Source.Grammar.Expression

/-!
# Statements

The production of the statements of a block. A statement that is an expression needs a semicolon
unless it ends the block or ends with a block of its own.
-/

namespace ContentModels.Source.Grammar

open ContentModels.Source.Parser

/-- Whether a statement starts with an item that is no macro call. -/
def startsItem (ts : List Token) : Bool :=
  let w (text : String) : Bool := Ahead.word text ts
  let second (a : Ahead) : Bool := Ahead.second a ts
  let third (a : Ahead) : Bool := Ahead.third a ts
  w "pub" ||
  (w "crate" && !second (.mark "::")) ||
  w "extern" || w "use" ||
  (w "static" && (second (.word "mut") ||
    (second .ident && !(second (.word "async") && third (.any [.word "move", .mark "|"]))))) ||
  (w "const" && !(second (.any [.brace, .word "static"]) ||
    (second (.word "async") && !third (.any [.word "unsafe", .word "extern", .word "fn"])) ||
    second (.any [.word "move", .mark "|"]))) ||
  (w "unsafe" && !second .brace) ||
  (w "async" && second (.any [.word "unsafe", .word "extern", .word "fn"])) ||
  w "fn" || w "mod" || w "type" || w "struct" || w "enum" ||
  (w "union" && second .ident) ||
  (w "auto" && second (.word "trait")) ||
  w "trait" ||
  (w "default" && second (.any [.word "unsafe", .word "impl"])) ||
  w "impl" || w "macro"

/-- A macro call that stands as a statement, or as the start of an item. -/
inductive MacroStart where
  /-- A call with braces, which ends its statement. -/
  | statement
  /-- A call that gives a name to what it makes. -/
  | item
  | neither
  deriving DecidableEq

/-- What kind of macro call starts here. A call with braces whose value is used further is an
expression. -/
def macroStart : Parser MacroStart := peek do
  match ← attempt plainPath with
  | none => return .neither
  | some _ =>
    let ts := (← get).rest
    if !Ahead.mark "!" ts then return .neither
    if Ahead.second (.any [.ident, .word "try"]) ts then return .item
    if Ahead.second .brace ts &&
        !(Ahead.third (.butNot (.mark ".") (.mark "..")) ts || Ahead.third (.mark "?") ts) then
      return .statement
    return .neither

/-- A `let` statement. -/
def localStatement (g : Grammar) : Parser Unit := do
  word "let"
  discard g.pattern
  if ← mark? ":" then discard <| g.type true
  if ← mark? "=" then
    let value ← g.expr
    if !value.endsWithBrace && (← ahead (.word "else")) then
      drop
      g.block
  mark ";"

/-- A statement; answers whether it still needs a semicolon. -/
def statement (g : Grammar) : Parser Bool := do
  let begin_ ← get
  discard g.outerAttributes
  let start ← macroStart
  if start == .statement then
    discard plainPath
    mark "!"
    discard anyGroup
    discard <| mark? ";"
    return false
  let ts := (← get).rest
  if Ahead.word "let" ts then
    g.localStatement
    return false
  if startsItem ts || start == .item then
    set begin_
    discard g.item
    return false
  let form ← g.statementExpr
  if ← mark? ";" then return false
  return match form.kind with
    | .block | .macroCall .brace => false
    | _ => true

/-- The statements up to the end of the group. -/
def statementsProduction (g : Grammar) : Parser Unit :=
  discard <| repeatUntil do
    discard <| repeatUntil do if ← mark? ";" then return some () else return none
    if ← ahead .atEnd then return none
    let needsSemicolon ← g.statement
    if ← ahead .atEnd then return none
    if needsSemicolon then refuse "unexpected token, expected `;`"
    return some ()

end ContentModels.Source.Grammar
