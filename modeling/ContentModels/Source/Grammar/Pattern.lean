import ContentModels.Source.Grammar.Type

/-!
# Patterns

## Main definitions

* `Grammar.patterns` — a pattern with its alternatives.
* `Grammar.patternProduction` — the production of a pattern without alternatives.
-/

namespace ContentModels.Source.Grammar

open ContentModels.Source.Parser

/-- Whether a bar comes next that separates alternatives. -/
def barFollows : Ahead := fun ts =>
  Ahead.mark "|" ts && !Ahead.mark "||" ts && !Ahead.mark "|=" ts

/-- A pattern with its alternatives; a bar may come first. -/
def patterns (g : Grammar) : Parser PatternForm := do
  let leading ← mark? "|"
  let first ← g.pattern
  let more ← repeatUntil do
    if ← ahead barFollows then
      mark "|"
      return some (← g.pattern)
    return none
  return if leading || !more.isEmpty then .other else first

/-- The name or the index of a field; answers whether it is a name. -/
def member : Parser Bool := do
  match (← get).rest with
  | .literal (.integer value suffix) p :: _ =>
    drop
    if suffix != "" then failAt p (.expected [.other "unsuffixed integer"])
    if value ≥ Nat.pow 2 32 then failAt p (.refused "number too large to fit in target type")
    return false
  | _ =>
    if ← ahead .ident then do drop; return true
    expected [.other "identifier or integer"]

/-- The dots of a range; answers whether the end is part of it. Three dots are an older spelling,
which only a pattern admits. -/
def rangeDots (older : Bool) : Parser Bool := do
  if ← ahead (.mark "..=") then do mark "..="; return true
  if ← ahead (.mark "...") then
    if older then do mark "..."; return true
    expected [.token "..", .token "..="]
  if ← ahead (.mark "..") then do mark ".."; return false
  expected [.token ".."]

/-- An end of a range; answers whether there is one. -/
def rangeEnd (g : Grammar) : Parser Bool := do
  let stop : Ahead := .any [.atEnd, .mark "|", .mark "=", .butNot (.mark ":") (.mark "::"),
    .mark ",", .mark ";", .word "if"]
  if ← ahead stop then return false
  if ← ahead .literal then literal
  else if ← ahead (.any [.ident, .mark "::", .mark "<", .word "self", .word "Self", .word "super",
      .word "crate"]) then
    discard <| g.qualifiedPath true
  else if ← ahead (.word "const") then
    drop
    g.attributedBlock
  else expected [.literal, .identifier, .token "::", .token "<", .token "self", .token "Self",
    .token "super", .token "crate", .token "const"]
  return true

/-- The dots and the end of a range that has a start, `dots` being where they stand. -/
def rangeRest (g : Grammar) : Parser PatternForm := do
  let dots ← here
  let closed ← rangeDots true
  if ← g.rangeEnd then return .other
  if closed then refuse "expected range upper bound"
  return .openRange dots

/-- A pattern that starts with a literal or a constant block. -/
def literalPattern (g : Grammar) : Parser PatternForm := do
  discard g.rangeEnd
  if ← ahead (.mark "..") then g.rangeRest else return .other

/-- A pattern that starts with a path: a macro, a struct, a tuple, a range or a constant. -/
def pathPattern (g : Grammar) : Parser PatternForm := do
  let (qualified, p) ← g.qualifiedPath true
  if !qualified && p.isPlain && (← ahead (.butNot (.mark "!") (.mark "!="))) then
    mark "!"
    discard anyGroup
    return .other
  if ← ahead .brace then
    braces fields
    return .other
  if ← ahead .paren then
    discard <| parens (commaList g.patterns)
    return .other
  if ← ahead (.mark "..") then g.rangeRest
  else return .other
where
  /-- The fields of a struct pattern; two dots end them. -/
  fields : Parser Unit :=
    discard <| repeatUntil do
      if ← ahead .atEnd then return none
      discard g.outerAttributes
      if ← mark? ".." then return none
      field
      if ← ahead .atEnd then return none
      mark ","
      return some ()
  /-- A field, with its pattern unless it is bound by its own name. -/
  field : Parser Unit := do
    let boxed ← word? "box"
    let byRef ← word? "ref"
    let mutable ← word? "mut"
    let modified := boxed || byRef || mutable
    let named ← if modified then do discard ident; pure true else member
    if (!modified && (← ahead (.mark ":"))) || !named then
      mark ":"
      discard g.patterns

/-- A pattern without alternatives. -/
def patternProduction (g : Grammar) : Parser PatternForm := do
  let opensPath : Ahead := fun ts =>
    (Ahead.ident ts && Ahead.second
      (.any [.mark "::", .mark "!", .brace, .paren, .mark ".."]) ts) ||
    (Ahead.word "self" ts && Ahead.second (.mark "::") ts) ||
    Ahead.any [.mark "::", .mark "<", .word "Self", .word "super", .word "crate"] ts
  if ← ahead opensPath then g.pathPattern
  else if ← ahead (.word "_") then do drop; return .other
  else if ← ahead (.word "box") then
    drop
    discard g.pattern
    return .other
  else if ← ahead (.any [.mark "-", .literal, .word "const"]) then g.literalPattern
  else if ← ahead (.any [.word "ref", .word "mut", .word "self", .ident]) then
    discard <| word? "ref"
    discard <| word? "mut"
    if ← ahead (.word "self") then drop else discard ident
    if ← mark? "@" then discard g.pattern
    return .other
  else if ← mark? "&" then
    discard <| word? "mut"
    discard g.pattern
    return .other
  else if ← ahead .paren then
    discard <| parens (commaList g.patterns)
    return .other
  else if ← ahead .bracket then
    discard <| brackets <| commaList do
      match ← g.patterns with
      | .openRange dots =>
        let reason := "range pattern is not allowed unparenthesized inside slice pattern"
        failAt dots (.refused reason)
      | _ => return ()
    return .other
  else if ← ahead (.butNot (.mark "..") (.mark "...")) then
    let dots ← here
    let closed ← rangeDots false
    if ← g.rangeEnd then return .openRange dots
    if closed then refuse "expected range upper bound"
    return .rest
  else
    expected [.identifier, .token "::", .token "<", .token "_", .literal, .token "const",
      .token "ref", .token "mut", .token "&", .group .parenthesis, .group .bracket, .token "..",
      .token "const"]

end ContentModels.Source.Grammar
