import ContentModels.Source.Grammar.Type

/-!
# Generic parameters and their conditions

## Main definitions

* `Grammar.generics` — the parameters between angle brackets.
* `Grammar.whereClause?` — the conditions after `where`.
-/

namespace ContentModels.Source.Grammar

open ContentModels.Source.Parser

/-- A lifetime with the lifetimes that it outlives. -/
def lifetimeParam (g : Grammar) : Parser Unit := do
  discard g.outerAttributes
  lifetime
  if ← mark? ":" then
    lifetimesUpTo (.any [.atEnd, .mark ",", .mark ">"])
where
  /-- Lifetimes separated by plus signs, none of them needed. -/
  lifetimesUpTo (stop : Ahead) : Parser Unit :=
    discard <| repeatUntil do
      if ← ahead stop then return none
      lifetime
      if ← mark? "+" then return some ()
      return none

/-- A type parameter with its bounds and its default. -/
def typeParam (g : Grammar) : Parser Unit := do
  discard g.outerAttributes
  discard ident
  if ← mark? ":" then
    g.boundsUpTo (.any [.atEnd, .mark ",", .mark ">", .mark "="])
  if ← mark? "=" then discard <| g.type true

/-- A constant parameter with its default. -/
def constParam (g : Grammar) : Parser Unit := do
  discard g.outerAttributes
  word "const"
  discard ident
  mark ":"
  discard <| g.type true
  if ← mark? "=" then g.constArgument

/-- A parameter between angle brackets, with its attributes. -/
def genericParamProduction (g : Grammar) : Parser Unit := do
  discard g.outerAttributes
  if ← ahead .ident then g.typeParam
  else if ← ahead .lifetime then g.lifetimeParam
  else if ← ahead (.word "const") then g.constParam
  else expected [.identifier, .lifetime, .token "const"]

/-- The parameters between angle brackets, if there are any; answers whether the brackets are
there. -/
def generics (g : Grammar) : Parser Bool := do
  if !(← ahead (.mark "<")) then return false
  mark "<"
  discard <| separated (.mark ">") (mark ",") do
    discard g.outerAttributes
    if ← ahead .lifetime then g.lifetimeParam
    else if ← ahead .ident then g.typeParam
    else if ← ahead (.word "const") then g.constParam
    else if ← ahead (.word "_") then drop
    else expected [.lifetime, .identifier, .token "const"]
  mark ">"
  return true

/-- Where the conditions of a `where` end. -/
def endsConditions : Ahead := .any
  [.atEnd, .brace, .mark ",", .mark ";", .butNot (.mark ":") (.mark "::"), .mark "="]

/-- One condition: a lifetime or a type with its bounds. -/
def condition (g : Grammar) : Parser Unit := do
  if ← ahead (fun ts => Ahead.lifetime ts && Ahead.second (.mark ":") ts) then
    lifetime
    mark ":"
    lifetimeParam.lifetimesUpTo
      (.any [.atEnd, .brace, .mark ",", .mark ";", .mark ":", .mark "="])
  else
    discard g.boundLifetimes?
    discard <| g.type true
    mark ":"
    g.boundsUpTo endsConditions

/-- The conditions after `where`, if there are any; answers whether the word is there. -/
def whereClause? (g : Grammar) : Parser Bool := do
  if !(← word? "where") then return false
  discard <| repeatUntil do
    if ← ahead endsConditions then return none
    g.condition
    if ← mark? "," then return some ()
    return none
  return true

/-- Whether the angle bracket after `impl` opens parameters, and not the type of a path. -/
def parametersFollow : Ahead := fun ts =>
  Ahead.mark "<" ts &&
    (Ahead.second (.mark ">") ts || Ahead.second (.mark "#") ts ||
      (Ahead.second (.any [.lifetime, .ident]) ts &&
        (Ahead.third (.mark ">") ts || Ahead.third (.mark ",") ts ||
          Ahead.third (.butNot (.mark ":") (.mark "::")) ts || Ahead.third (.mark "=") ts)) ||
      Ahead.second (.word "const") ts)

end ContentModels.Source.Grammar
