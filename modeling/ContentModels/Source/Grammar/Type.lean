import ContentModels.Source.Grammar.Basic

/-!
# Paths, types and bounds

## Main definitions

* `Grammar.path`, `Grammar.qualifiedPath` — paths with arguments.
* `Grammar.bound`, `Grammar.bounds` — bounds on a type.
* `Grammar.genericArgumentProduction`, `Grammar.typeProduction` — the productions.
-/

namespace ContentModels.Source.Grammar

open ContentModels.Source.Parser

/-- A constant as an argument: a literal, a name, or a block. -/
def constArgument (g : Grammar) : Parser Unit := do
  if ← ahead .literal then literal
  else if ← ahead .ident then discard ident
  else if ← ahead .brace then g.attributedBlock
  else expected []

/-- Lifetimes and parameters that a hidden type captures, `use<'a, T>`. -/
def preciseCapture : Parser Unit := do
  word "use"
  mark "<"
  discard <| repeatUntil do
    if ← ahead .lifetime then lifetime
    else if ← ahead (.any [.ident, .word "Self"]) then discard anyWord
    else if ← ahead (.mark ">") then return none
    else expected [.lifetime, .identifier, .token ">"]
    if ← ahead (.mark ",") then do mark ","; return some ()
    else if ← ahead (.mark ">") then return none
    else expected [.token ",", .token ">"]
  mark ">"

/-- The parameters of a `for<…>`. -/
def boundLifetimes (g : Grammar) : Parser Unit := do
  word "for"
  mark "<"
  discard <| separated (.mark ">") (mark ",") g.genericParam
  mark ">"

/-- The parameters of a `for<…>`, if there is one. -/
def boundLifetimes? (g : Grammar) : Parser Bool := do
  if ← ahead (.word "for") then do g.boundLifetimes; return true
  return false

/-- The arguments and the result of a function trait; answers whether more of a path may follow, and
whether the result ends with a brace. -/
def parenArguments (g : Grammar) : Parser (Bool × Bool) := do
  discard <| parens (commaList (g.type true))
  if ← mark? "->" then
    let output ← g.type false
    return (output.kind == .paren, output.endsWithBrace)
  return (true, false)

/-- Arguments between angle brackets, perhaps after `::`; answers whether there were none. -/
def angleArguments (g : Grammar) : Parser Bool := do
  discard <| mark? "::"
  mark "<"
  let arguments ← separated (.mark ">") (mark ",") g.genericArgument
  mark ">"
  return arguments.isEmpty

/-! ## Paths -/

/-- The test for parentheses behind a path, with or without `::` between them. -/
def parensFollow : Ahead := fun ts =>
  Ahead.paren ts || (Ahead.mark "::" ts && Ahead.third .paren ts)

/-- One name of a path. In an expression its arguments need a `::`. -/
def segment (g : Grammar) (inExpr : Bool) : Parser Segment := do
  if ← ahead (.any [.word "super", .word "self", .word "crate", .word "try"]) then
    return { name := ← anyWord }
  let name ← if ← ahead (.word "Self") then anyWord else ident
  let opensArguments : Ahead := fun ts =>
    (!inExpr && Ahead.mark "<" ts && !Ahead.mark "<=" ts && !Ahead.mark "<<=" ts) ||
      (Ahead.mark "::" ts && Ahead.third (.mark "<") ts)
  if ← ahead opensArguments then return { name, arguments := .angle (← g.angleArguments) }
  return { name }

/-- The further names of a path. -/
def moreSegments (g : Grammar) (inExpr : Bool) : Parser (List Segment) :=
  repeatUntil do
    if ← ahead (fun ts => Ahead.mark "::" ts && !Ahead.third .paren ts) then
      mark "::"
      return some (← g.segment inExpr)
    return none

/-- A path. -/
def path (g : Grammar) (inExpr : Bool) : Parser NamePath := do
  let rooted ← mark? "::"
  let first ← g.segment inExpr
  return ⟨rooted, first :: (← g.moreSegments inExpr)⟩

/-- A path that may start from a type between angle brackets; answers whether it does, with the path
itself, which in that case holds the names behind the type. -/
def qualifiedPath (g : Grammar) (inExpr : Bool) : Parser (Bool × NamePath) := do
  if !(← ahead (.mark "<")) then return (false, ← g.path inExpr)
  mark "<"
  discard <| g.type true
  if ← word? "as" then discard <| g.path false
  mark ">"
  mark "::"
  let first ← g.segment inExpr
  let more ← repeatUntil do
    if ← mark? "::" then return some (← g.segment inExpr)
    return none
  return (true, ⟨false, first :: more⟩)

/-! ## Bounds -/

/-- The kinds of bounds on a type. -/
inductive Bound where
  | trait
  | lifetime
  /-- What a hidden type captures. -/
  | capture
  /-- A trait that has to hold in constant evaluation. -/
  | constTrait
  deriving DecidableEq, Repr

/-- A trait as a bound; `allowConst` admits one that has to hold in constant evaluation. -/
def traitBound (g : Grammar) (allowConst : Bool) : Parser Bound := do
  let mut binder ← g.boundLifetimes?
  let start ← here
  let conditional ← ahead .bracket
  let unconditional ← ahead (.word "const")
  if conditional then
    brackets (word "const")
    if !allowConst then failAt start (.refused "`[const]` is not allowed here")
  else if unconditional then
    word "const"
    if !allowConst then failAt start (.refused "`const` is not allowed here")
  let maybePos ← here
  let maybe ← mark? "?"
  if !binder && maybe then
    binder ← g.boundLifetimes?
  let p ← g.path false
  if p.takesArguments && (← ahead parensFollow) then
    discard <| mark? "::"
    discard g.parenArguments
  if binder && maybe then
    failAt maybePos (.refused "`for<...>` binder not allowed with `?` trait polarity modifier")
  return if conditional || unconditional then .constTrait else .trait

/-- A single bound. -/
def bound (g : Grammar) (allowCapture allowConst : Bool) : Parser Bound := do
  if ← ahead .lifetime then
    lifetime
    return .lifetime
  if ← ahead (.word "use") then
    let start ← here
    preciseCapture
    if !allowCapture then
      failAt start (.refused "`use<...>` precise capturing syntax is not allowed here")
    return .capture
  if ← ahead .paren then parens (g.traitBound allowConst)
  else g.traitBound allowConst

/-- Bounds separated by plus signs; answers them, and whether a plus sign came last. -/
def bounds (g : Grammar) (plus allowCapture allowConst : Bool) : Parser (List Bound × Bool) := do
  let first ← g.bound allowCapture allowConst
  let mut trailing := false
  let goesOn : Ahead := .any ([Ahead.anyWord, .mark "::", .mark "?", .lifetime, .paren] ++
    if allowConst then [Ahead.bracket, .word "const"] else [])
  let more ← repeatUntil do
    if plus && (← ahead (.mark "+")) then
      if ← peek (do mark "+"; ahead goesOn) then
        mark "+"
        return some (← g.bound allowCapture allowConst)
    return none
  if plus then
    trailing ← mark? "+"
  return (first :: more, trailing)

/-- Bounds separated by plus signs, none of them needed, up to the tokens that `stop` recognises. -/
def boundsUpTo (g : Grammar) (stop : Ahead) : Parser Unit :=
  discard <| repeatUntil do
    if ← ahead stop then return none
    discard <| g.bound false true
    if ← mark? "+" then return some ()
    return none

/-- Bounds separated by plus signs, up to the tokens that `stop` recognises; nothing else may follow
them. -/
def boundsThrough (g : Grammar) (stop : Ahead) : Parser Unit :=
  discard <| separated stop (mark "+") (discard <| g.bound false true)

/-! ## Arguments -/

/-- An argument between angle brackets: a lifetime, a constant, a type, or a name with a type, a
constant or bounds. -/
def genericArgumentProduction (g : Grammar) : Parser Unit := do
  if ← ahead (fun ts => Ahead.lifetime ts && !Ahead.second (.mark "+") ts) then lifetime
  else if ← ahead (.any [.literal, .brace]) then g.constArgument
  else
    let argument ← g.type true
    match argument.kind with
    | .path ⟨false, [⟨_, arguments⟩]⟩ =>
      if arguments != .paren then
        if ← mark? "=" then
          if ← ahead (.any [.literal, .brace]) then g.constArgument
          else discard <| g.type true
        else if ← mark? ":" then
          g.boundsUpTo (.any [.mark ",", .mark ">"])
    | _ => return

/-! ## Types -/

/-- A pointer to a function, after its `for<…>` if it has one. -/
def functionPointer (g : Grammar) : Parser TypeForm := do
  discard g.boundLifetimes?
  discard <| word? "unsafe"
  if ← word? "extern" then
    if ← ahead .text then discard text
  word "fn"
  parens do
    discard <| repeatFirst fun first => do
      if ← ahead .atEnd then return none
      discard g.outerAttributes
      let named : Ahead := .any [.ident, .word "_"]
      let variadic : Ahead := fun ts => Ahead.mark "..." ts ||
        (named ts && Ahead.second (.mark ":") ts && ellipsisAfterColon ts)
      if ← ahead variadic then
        if ← ahead named then
          drop
          mark ":"
        mark "..."
        discard <| mark? ","
        return none
      argument first
      if ← ahead .atEnd then return none
      mark ","
      return some ()
  let endsWithBrace ← if ← mark? "->" then (·.endsWithBrace) <$> g.type false else pure false
  return { endsWithBrace }
where
  /-- Runs the body, which learns whether it runs for the first time, until it answers nothing. -/
  repeatFirst (body : Bool → Parser (Option Unit)) : Parser Unit := do
    if (← body true).isSome then
      discard <| repeatUntil (body false)
  ellipsisAfterColon : Ahead
    | _ :: _ :: rest => Ahead.mark "..." rest
    | _ => false
  /-- An argument of a function pointer; the first one may be a receiver. -/
  argument (first : Bool) : Parser Unit := do
    discard g.outerAttributes
    let mutSelf : Ahead := fun ts => Ahead.word "mut" ts && Ahead.second (.word "self") ts
    let hasMutSelf := first && (← ahead mutSelf)
    if hasMutSelf then drop
    let colonFollows : Ahead := fun ts =>
      Ahead.second (.mark ":") ts && !Ahead.second (.mark "::") ts
    let isSelf ← ahead fun ts => first && Ahead.word "self" ts && colonFollows ts
    let isNamed := isSelf ||
      (← ahead fun ts => (Ahead.ident ts || Ahead.word "_" ts) && colonFollows ts)
    if isNamed then
      drop
      mark ":"
    if first && !isSelf && (← ahead mutSelf) then
      drop
      drop
    else if hasMutSelf && !isNamed then word "self"
    else discard <| g.type true

/-- Traits after `dyn`, which stands at `start`. -/
def objectBounds (g : Grammar) (start : Position) (plus : Bool) : Parser (Nat × Bool) := do
  let (found, trailing) ← g.bounds plus false false
  if found.contains .trait then return (found.length, trailing)
  failAt start (.refused "at least one trait is required for an object type")

/-- Further bounds behind a first one, each after a plus sign. -/
def addedBounds (g : Grammar) : Parser Nat := do
  let more ← repeatUntil do
    if ← mark? "+" then return some (← g.bound false false)
    return none
  return more.length

/-- A type that starts with a parenthesis: a tuple, a type in parentheses, or a bound in
parentheses. -/
def parenType (g : Grammar) (plus : Bool) : Parser TypeForm := do
  let (first, isBound) ← parens do
    if ← ahead .atEnd then return (({} : TypeForm), false)
    if ← ahead .lifetime then
      let start ← here
      discard <| g.objectBounds start true
      return ({ kind := .paren }, false)
    if ← ahead (.mark "?") then
      discard <| g.traitBound false
      return ({ kind := .object false 1 false }, true)
    let first ← g.type true
    if ← ahead (.mark ",") then
      mark ","
      discard <| commaList (g.type true)
      return ({}, false)
    return (⟨.paren, first.endsWithBrace⟩, match first.kind with
      | .path _ => true
      | .object false 1 false => true
      | _ => false)
  if first.kind == .object false 1 false then
    return { kind := .object false (1 + (← g.addedBounds)) false }
  if first.kind == .paren && isBound && plus && (← ahead (.mark "+")) then
    return { kind := .object false (1 + (← g.addedBounds)) false }
  return { kind := first.kind }

/-- A type that starts with a path, after its `for<…>` if it has one. -/
def pathType (g : Grammar) (plus binder : Bool) : Parser TypeForm := do
  let (qualified, start) ← g.qualifiedPath false
  let (p, endsWithBrace) ← extended ((← get).rest.length + 1) start
  if qualified then return { kind := .qualified, endsWithBrace }
  if p.isPlain && (← ahead (.butNot (.mark "!") (.mark "!="))) then
    mark "!"
    let (d, _) ← anyGroup
    return { endsWithBrace := d == .brace }
  if binder || (plus && (← ahead (.mark "+"))) then
    if !plus then return { kind := .object false 1 false, endsWithBrace }
    let goesOn : Ahead := .any [.anyWord, .mark "::", .mark "?", .lifetime, .paren]
    let more ← repeatUntil do
      if ← ahead (.mark "+") then
        if ← peek (do mark "+"; ahead goesOn) then
          mark "+"
          return some (← g.bound false false)
      return none
    let trailing ← mark? "+"
    return { kind := .object false (1 + more.length) trailing }
  return { kind := .path p, endsWithBrace }
where
  /-- The path with the arguments of function traits in it, at most `fuel` of them. -/
  extended : (fuel : Nat) → NamePath → Parser (NamePath × Bool)
    | 0, p => return (p, false)
    | fuel + 1, p => do
      if !(p.takesArguments && (← ahead parensFollow)) then return (p, false)
      discard <| mark? "::"
      let (goesOn, endsWithBrace) ← g.parenArguments
      let p := p.withArguments .paren
      let more ← if goesOn then g.moreSegments false else pure []
      if more.isEmpty then return (p, endsWithBrace)
      extended fuel { p with segments := p.segments ++ more }

/-- A type; `plus` allows a sum of bounds. -/
def typeProduction (g : Grammar) (plus : Bool) : Parser TypeForm := do
  let binder ← ahead (.word "for")
  if binder then
    g.boundLifetimes
    let admitted : Ahead := .any [.ident, .word "fn", .word "unsafe", .word "extern",
      .word "super", .word "self", .word "Self", .word "crate"]
    if !(← ahead admitted) then
      expected [.identifier, .token "fn", .token "unsafe", .token "extern", .token "super",
        .token "self", .token "Self", .token "crate"]
  let start ← here
  if ← ahead .paren then g.parenType plus
  else if ← ahead (.any [.word "fn", .word "unsafe", .word "extern"]) then g.functionPointer
  else if ← ahead (.any [.ident, .word "super", .word "self", .word "Self", .word "crate",
      .mark "::", .mark "<"]) then
    g.pathType plus binder
  else if ← word? "dyn" then
    let star ← mark? "*"
    let (count, trailing) ← g.objectBounds start plus
    return { kind := if star then .other else .object true count trailing }
  else if ← ahead .bracket then
    brackets do
      discard <| g.type true
      if ← mark? ";" then discard g.expr
    return {}
  else if ← ahead (.mark "*") then
    mark "*"
    if ← ahead (.any [.word "const", .word "mut"]) then discard anyWord
    else expected [.token "const", .token "mut"]
    return { endsWithBrace := (← g.type false).endsWithBrace }
  else if ← ahead (.mark "&") then
    mark "&"
    if ← ahead .lifetime then lifetime
    discard <| word? "mut"
    return { endsWithBrace := (← g.type false).endsWithBrace }
  else if ← mark? "!" then return {}
  else if ← word? "impl" then
    let (found, _) ← g.bounds plus true true
    if !(found.any fun b => b == .trait || b == .constTrait) then
      failAt start (.refused "at least one trait must be specified")
    return {}
  else if ← word? "_" then return {}
  else if ← ahead .lifetime then
    let (count, trailing) ← g.objectBounds start true
    return { kind := .object false count trailing }
  else
    expected [.token "for", .group .parenthesis, .token "fn", .token "unsafe", .token "extern",
      .identifier, .token "::", .token "<", .token "dyn", .group .bracket, .token "*", .token "&",
      .token "!", .token "impl", .token "_", .lifetime]

end ContentModels.Source.Grammar
