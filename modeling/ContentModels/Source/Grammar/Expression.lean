import ContentModels.Source.Lexer.Literal
import ContentModels.Source.Grammar.Generics
import ContentModels.Source.Grammar.Pattern

/-!
# Expressions

## Main definitions

* `Grammar.binaryOperator?` — the operators between two operands.
* `Grammar.unaryProduction`, `Grammar.operatorsProduction` — operands, and what follows them.
* `Grammar.statementExprProduction` — an expression that stands as a statement.
-/

namespace ContentModels.Source.Grammar

open ContentModels.Source.Parser

/-! ## Operators -/

/-- The operators between two operands, those with more characters before their beginnings. -/
def binaryOperators : List (String × Precedence) := [
  ("+=", .assign), ("-=", .assign), ("*=", .assign), ("/=", .assign), ("%=", .assign),
  ("^=", .assign), ("&=", .assign), ("|=", .assign), ("<<=", .assign), (">>=", .assign),
  ("&&", .conjunction), ("||", .disjunction), ("<<", .shift), (">>", .shift),
  ("==", .comparison), ("<=", .comparison), ("!=", .comparison), (">=", .comparison),
  ("+", .sum), ("-", .sum), ("*", .product), ("/", .product), ("%", .product), ("^", .bitXor),
  ("&", .bitAnd), ("|", .bitOr), ("<", .comparison), (">", .comparison)]

/-- The operator that comes next. -/
def binaryOperator? (ts : List Token) : Option (String × Precedence) :=
  binaryOperators.find? fun (op, _) => Ahead.mark op ts

/-- Whether an assignment comes next, which is not the arrow of a `match`. -/
def assignFollows : Ahead := .butNot (.mark "=") (.mark "=>")

/-- How strongly what comes next binds. -/
def nextPrecedence (ts : List Token) : Precedence :=
  match binaryOperator? ts with
  | some (_, p) => p
  | none =>
    if assignFollows ts then .assign
    else if Ahead.mark ".." ts then .range
    else if Ahead.word "as" ts then .cast
    else .lowest

/-- The operand behind an operator, with the operators behind it that bind more strongly. -/
def operand (g : Grammar) (structs : Bool) (precedence : Precedence) : Parser ExprForm := do
  let first ← g.unary structs
  further ((← get).rest.length + 1) first
where
  further : (fuel : Nat) → ExprForm → Parser ExprForm
    | 0, form => return form
    | fuel + 1, form => do
      let before := (← get).rest
      let next := nextPrecedence before
      if next.rank > precedence.rank || (next == precedence && precedence == .assign) then
        let form ← g.operators structs next form
        if (← get).rest.length == before.length then return form
        further fuel form
      else return form

/-- Whether a range ends with its dots. -/
def rangeStops (structs : Bool) : Ahead := fun ts =>
  Ahead.any [.atEnd, .mark ",", .mark ";", .butNot (.mark ".") (.mark ".."), .mark "?", .mark "=>"]
    ts ||
  (!structs && Ahead.brace ts) ||
  Ahead.any [.mark "=", .mark "+", .mark "/", .mark "%", .mark "^", .mark ">", .mark "<=",
    .mark "!=", .mark "-=", .mark "*=", .mark "&=", .mark "|=", .mark "<<=", .word "as"] ts

/-- The dots of a range and its end. -/
def rangeTail (g : Grammar) (structs : Bool) : Parser ExprForm := do
  let closed ← rangeDots false
  if !closed && (← ahead (rangeStops structs)) then return { kind := .range }
  let last ← g.operand structs .range
  return { kind := .range, endsWithBrace := last.endsWithBrace }

/-- Refuses what cannot follow a cast. -/
def checkCast : Parser Unit := do
  let ts := (← get).rest
  let found : Option String :=
    if Ahead.butNot (.mark ".") (.mark "..") ts then
      if Ahead.second (.word "await") ts then some "`.await`"
      else if Ahead.second .ident ts && Ahead.third (.any [.paren, .mark "::"]) ts then
        some "a method call"
      else some "a field access"
    else if Ahead.mark "?" ts then some "`?`"
    else if Ahead.bracket ts then some "indexing"
    else if Ahead.paren ts then some "a function call"
    else none
  match found with
  | some what => refuse ("casts cannot be followed by " ++ what)
  | none => return ()

/-- The operators behind an operand that bind at least as strongly as `base`. -/
def operatorsProduction (g : Grammar) (structs : Bool) (base : Precedence) (first : ExprForm) :
    Parser ExprForm := do
  further ((← get).rest.length + 1) first
where
  further : (fuel : Nat) → ExprForm → Parser ExprForm
    | 0, form => return form
    | fuel + 1, form => do
      let ts := (← get).rest
      if form.kind == .range then return form
      match binaryOperator? ts with
      | some (op, precedence) =>
        if precedence.rank < base.rank then return form
        if precedence == .comparison && form.kind == .comparison then
          refuse "comparison operators cannot be chained"
        mark op
        let right ← g.operand structs precedence
        further fuel
          { kind := if precedence == .comparison then .comparison else .other,
            endsWithBrace := right.endsWithBrace }
      | none =>
        if Precedence.assign.rank ≥ base.rank && assignFollows ts then
          mark "="
          let right ← g.operand structs .assign
          further fuel { endsWithBrace := right.endsWithBrace }
        else if Precedence.range.rank ≥ base.rank && Ahead.mark ".." ts then
          further fuel (← g.rangeTail structs)
        else if Precedence.cast.rank ≥ base.rank && Ahead.word "as" ts then
          drop
          let target ← g.type false
          checkCast
          further fuel { endsWithBrace := target.endsWithBrace }
        else return form

/-! ## What follows an operand at once -/

/-- The arguments of a call. -/
def callArguments (g : Grammar) : Parser Unit := discard <| parens (commaList g.expr)

/-- Whether a floating point number stands for a chain of indices, such as the `0.1` in `x.0.1`;
answers whether its last dot has an index behind it. -/
def indexChain (written : String) (p : Position) : Parser Bool := do
  let trailing := written.endsWith "."
  let parts := (if trailing then (written.dropEnd 1).toString else written).splitOn "."
  for part in parts do
    match Lexer.literal part.toList with
    | some (.integer value suffix, []) =>
      if suffix != "" then failAt p (.expected [.other "unsuffixed integer"])
      if value ≥ Nat.pow 2 32 then failAt p (.refused "number too large to fit in target type")
    | _ => failAt p (.expected [.integer])
  return !trailing

/-- Calls, fields, methods, indices and question marks behind an operand. -/
def trailers (g : Grammar) (first : ExprForm) : Parser ExprForm := do
  further ((← get).rest.length + 1) first
where
  further : (fuel : Nat) → ExprForm → Parser ExprForm
    | 0, form => return form
    | fuel + 1, form => do
      if ← ahead .paren then
        g.callArguments
        further fuel {}
      else if form.kind != .range && (← ahead (.butNot (.mark ".") (.mark ".."))) then
        mark "."
        match (← get).rest with
        | .literal (.float written) p :: _ =>
          drop
          if ← indexChain written p then further fuel {} else name fuel
        | _ => name fuel
      else if ← ahead .bracket then
        brackets (discard g.expr)
        further fuel {}
      else if form.kind != .range && (← ahead (.mark "?")) then
        mark "?"
        further fuel {}
      else return form
  termination_by fuel => (fuel, 0)
  /-- A field or a method behind a dot. -/
  name (fuel : Nat) : Parser ExprForm := do
    if ← word? "await" then further fuel {}
    else
      let named ← member
      let turbofish := named && (← ahead (.mark "::"))
      if turbofish then
        mark "::"
        discard g.angleArguments
        g.callArguments
      else if named && (← ahead .paren) then g.callArguments
      further fuel {}
  termination_by (fuel, 1)

/-! ## Operands -/

/-- Whether an expression can start here. -/
def startsExpr : Ahead := .any [
  .anyWord, .paren, .bracket, .brace, .literal, .butNot (.mark "!") (.mark "!="),
  fun ts => Ahead.mark "-" ts && !Ahead.mark "-=" ts && !Ahead.mark "->" ts,
  .butNot (.mark "*") (.mark "*="), .butNot (.mark "|") (.mark "|="),
  .butNot (.mark "&") (.mark "&="), .mark "..",
  fun ts => Ahead.mark "<" ts && !Ahead.mark "<=" ts && !Ahead.mark "<<=" ts,
  .mark "::", .lifetime, .mark "#"]

/-- An expression, if one can start here. -/
def optionalExpr (g : Grammar) : Parser ExprForm := do
  if ← ahead startsExpr then
    return { endsWithBrace := (← g.expr).endsWithBrace }
  return {}

/-- An expression that ends with a block in braces. -/
def blockForm : ExprForm := { kind := .block, endsWithBrace := true }

/-- The label of a loop or block. -/
def label? : Parser Unit := do
  if ← ahead .lifetime then
    lifetime
    mark ":"

/-- A conditional with its alternatives. -/
def ifExpr (g : Grammar) : Parser ExprForm := do
  discard g.outerAttributes
  discard <| repeatUntil do
    word "if"
    discard <| g.expr false
    g.block
    if !(← word? "else") then return none
    if ← ahead (.word "if") then return some ()
    if ← ahead .brace then
      g.block
      return none
    expected [.token "if", .group .brace]
  return blockForm

def whileExpr (g : Grammar) : Parser ExprForm := do
  discard g.outerAttributes
  label?
  word "while"
  discard <| g.expr false
  g.attributedBlock
  return blockForm

def forExpr (g : Grammar) : Parser ExprForm := do
  discard g.outerAttributes
  label?
  word "for"
  discard g.patterns
  word "in"
  discard <| g.expr false
  g.attributedBlock
  return blockForm

def loopExpr (g : Grammar) : Parser ExprForm := do
  discard g.outerAttributes
  label?
  word "loop"
  g.attributedBlock
  return blockForm

/-- One case of a `match`. -/
def arm (g : Grammar) : Parser Unit := do
  discard g.outerAttributes
  discard g.patterns
  if ← word? "if" then discard g.expr
  mark "=>"
  let body ← g.statementExpr
  let needsComma := body.kind != .block
  if needsComma && !(← ahead .atEnd) then mark "," else discard <| mark? ","

def matchExpr (g : Grammar) : Parser ExprForm := do
  discard g.outerAttributes
  word "match"
  discard <| g.expr false
  braces do
    g.innerAttributes
    discard <| untilEnd g.arm
  return blockForm

/-- A block after a word such as `unsafe`. -/
def wordBlock (g : Grammar) (text : String) : Parser ExprForm := do
  word text
  g.attributedBlock
  return blockForm

/-- A block that may have a label. -/
def blockExpr (g : Grammar) : Parser ExprForm := do
  discard g.outerAttributes
  label?
  g.attributedBlock
  return blockForm

/-- A loop or block with a label. -/
def labeled (g : Grammar) : Parser ExprForm := do
  label?
  if ← ahead (.word "while") then g.whileExpr
  else if ← ahead (.word "for") then g.forExpr
  else if ← ahead (.word "loop") then g.loopExpr
  else if ← ahead .brace then g.blockExpr
  else expected [.other "loop or block expression"]

/-- A parameter of a closure. -/
def closureParam (g : Grammar) : Parser Unit := do
  discard g.outerAttributes
  discard g.pattern
  if ← mark? ":" then discard <| g.type true

def closure (g : Grammar) (structs : Bool) : Parser ExprForm := do
  discard g.boundLifetimes?
  discard <| word? "const"
  discard <| word? "static"
  discard <| word? "async"
  discard <| word? "move"
  mark "|"
  discard <| separated (.mark "|") (mark ",") g.closureParam
  mark "|"
  if ← mark? "->" then
    discard <| g.type true
    g.block
    return { endsWithBrace := true }
  return { endsWithBrace := (← g.expr structs).endsWithBrace }

/-- The fields of a struct literal; two dots and a base may end them. -/
def structFields (g : Grammar) : Parser Unit :=
  discard <| repeatUntil do
    if ← ahead .atEnd then return none
    if ← mark? ".." then
      if !(← ahead .atEnd) then discard g.expr
      return none
    discard g.outerAttributes
    let named ← member
    if !named || (← ahead (.mark ":")) then
      mark ":"
      discard g.expr
    if ← ahead .atEnd then return none
    mark ","
    return some ()

/-- A path, a macro call, or a struct literal. -/
def pathExpr (g : Grammar) (structs : Bool) : Parser ExprForm := do
  let (qualified, p) ← g.qualifiedPath true
  if !qualified && p.isPlain && (← ahead (.butNot (.mark "!") (.mark "!="))) then
    mark "!"
    let (d, _) ← anyGroup
    return ⟨.macroCall d, d == .brace⟩
  if structs && (← ahead .brace) then
    braces g.structFields
    return { endsWithBrace := true }
  return {}

/-- A tuple, or an expression in parentheses. -/
def parenExpr (g : Grammar) : Parser ExprForm := do
  parens (discard <| commaList g.expr)
  return {}

/-- An array, by its elements or by one element and a length. -/
def arrayExpr (g : Grammar) : Parser ExprForm := do
  brackets do
    if ← ahead .atEnd then return
    discard g.expr
    if ← ahead (.any [.atEnd, .mark ","]) then
      if ← mark? "," then discard <| commaList g.expr
    else if ← mark? ";" then discard g.expr
    else expected [.token ",", .token ";"]
  return {}

/-- A pattern with the value it is matched against. -/
def letExpr (g : Grammar) (structs : Bool) : Parser ExprForm := do
  word "let"
  discard g.patterns
  mark "="
  let value ← g.operators structs .comparison (← g.unary structs)
  return { endsWithBrace := value.endsWithBrace }

def breakExpr (g : Grammar) (structs : Bool) : Parser ExprForm := do
  word "break"
  let start ← here
  if ← ahead (fun ts => Ahead.lifetime ts && Ahead.second (.mark ":") ts) then
    discard g.expr
    failAt start (.refused "parentheses required")
  if ← ahead .lifetime then drop
  if (← ahead startsExpr) && (structs || !(← ahead .brace)) then
    return { endsWithBrace := (← g.expr structs).endsWithBrace }
  return {}

/-- An operand that is not prefixed and not followed by anything. -/
def atom (g : Grammar) (structs : Bool) : Parser ExprForm := do
  let ts := (← get).rest
  if Ahead.literal ts then do literal; return {}
  else if Ahead.word "async" ts && (Ahead.second .brace ts ||
      (Ahead.second (.word "move") ts && Ahead.third .brace ts)) then
    drop
    discard <| word? "move"
    g.block
    return { endsWithBrace := true }
  else if Ahead.word "try" ts && Ahead.second .brace ts then
    drop
    g.block
    return blockForm
  else if Ahead.any [.mark "|", .word "move"] ts ||
      (Ahead.word "for" ts && Ahead.second (.mark "<") ts &&
        Ahead.third (.any [.lifetime, .mark ">"]) ts) ||
      (Ahead.word "const" ts && !Ahead.second .brace ts) ||
      Ahead.word "static" ts ||
      (Ahead.word "async" ts && Ahead.second (.any [.mark "|", .word "move"]) ts) then
    g.closure structs
  else if Ahead.word "builtin" ts && Ahead.second (.mark "#") ts then
    drop
    mark "#"
    discard ident
    parens skipAll
    return {}
  else if Ahead.any [.ident, .mark "::", .mark "<", .word "self", .word "Self", .word "super",
      .word "crate"] ts ||
      (Ahead.word "try" ts && Ahead.second (.any [.mark "!", .mark "::"]) ts) then
    g.pathExpr structs
  else if Ahead.paren ts then g.parenExpr
  else if Ahead.word "break" ts then g.breakExpr structs
  else if Ahead.word "continue" ts then
    drop
    if ← ahead .lifetime then drop
    return {}
  else if Ahead.word "return" ts then do drop; g.optionalExpr
  else if Ahead.word "become" ts then
    drop
    discard g.expr
    return {}
  else if Ahead.bracket ts then g.arrayExpr
  else if Ahead.word "let" ts then g.letExpr structs
  else if Ahead.word "if" ts then g.ifExpr
  else if Ahead.word "while" ts then g.whileExpr
  else if Ahead.word "for" ts then g.forExpr
  else if Ahead.word "loop" ts then g.loopExpr
  else if Ahead.word "match" ts then g.matchExpr
  else if Ahead.word "yield" ts then do drop; g.optionalExpr
  else if Ahead.word "unsafe" ts then g.wordBlock "unsafe"
  else if Ahead.word "const" ts then g.wordBlock "const"
  else if Ahead.brace ts then g.blockExpr
  else if Ahead.mark ".." ts then g.rangeTail structs
  else if Ahead.word "_" ts then do drop; return {}
  else if Ahead.lifetime ts then g.labeled
  else expected [.other "an expression"]

/-- An operand with its prefix operators; `structs` allows a struct literal. -/
def unaryProduction (g : Grammar) (structs : Bool) : Parser ExprForm := do
  let attributed ← g.outerAttributes
  if ← ahead (.mark "&") then
    mark "&"
    let raw ← ahead fun ts =>
      Ahead.word "raw" ts && Ahead.second (.any [.word "mut", .word "const"]) ts
    if raw then drop
    let mutable ← word? "mut"
    if raw && !mutable then word "const"
    return { endsWithBrace := (← g.unary structs).endsWithBrace }
  if ← ahead (.any [.mark "*", .mark "!", .mark "-"]) then
    drop
    return { endsWithBrace := (← g.unary structs).endsWithBrace }
  let start ← here
  let form ← g.trailers (← g.atom structs)
  if attributed && form.kind == .range then
    failAt start
      (.refused "attributes are not allowed on range expressions starting with `..`")
  return form

/-- An expression that stands as a statement: one that ends with a block ends the statement, unless
a dot or a question mark follows. -/
def statementExprProduction (g : Grammar) : Parser ExprForm := do
  discard g.outerAttributes
  let ts := (← get).rest
  let form ←
    if Ahead.word "if" ts then g.ifExpr
    else if Ahead.word "while" ts then g.whileExpr
    else if Ahead.word "for" ts && !(Ahead.second (.mark "<") ts &&
        Ahead.third (.any [.lifetime, .mark ">"]) ts) then g.forExpr
    else if Ahead.word "loop" ts then g.loopExpr
    else if Ahead.word "match" ts then g.matchExpr
    else if Ahead.word "try" ts && Ahead.second .brace ts then do drop; g.block; pure blockForm
    else if Ahead.word "unsafe" ts then g.wordBlock "unsafe"
    else if Ahead.word "const" ts && Ahead.second .brace ts then g.wordBlock "const"
    else if Ahead.brace ts then g.blockExpr
    else if Ahead.lifetime ts then g.labeled
    else g.unary true
  if form.kind != .block then g.operators true .lowest form
  else if ← ahead (.any [.butNot (.mark ".") (.mark ".."), .mark "?"]) then
    g.operators true .lowest (← g.trailers form)
  else return form

end ContentModels.Source.Grammar
