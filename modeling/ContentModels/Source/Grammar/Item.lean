import ContentModels.Source.Grammar.Statement

/-!
# Items

## Main definitions

* `Grammar.useTreeProduction` — what follows `use`.
* `Grammar.itemProduction` — the production of items.
-/

namespace ContentModels.Source.Grammar

open ContentModels.Source.Parser

/-! ## Imports -/

/-- What follows `use`. A tree inside braces may start with `::` if `rootInside` says so; what holds
such a tree is read and answers nothing. -/
def useTreeProduction (g : Grammar) (rootInside : Bool) : Parser (Option UseTree) := do
  if ← ahead (.any [.ident, .word "self", .word "super", .word "crate", .word "try"]) then
    let name ← anyWord
    if ← mark? "::" then return (← g.useTree false).map (.path name)
    if ← word? "as" then
      if ← ahead (.any [.ident, .word "_"]) then return some (.rename name (← anyWord))
      expected [.other "identifier or underscore"]
    return some (.name name)
  if ← mark? "*" then return some .glob
  if ← ahead .brace then
    let items ← braces <| commaList do
      let rooted ← if rootInside then mark? "::" else pure false
      let tree ← g.useTree (rootInside && !rooted)
      return if rooted then none else tree
    return if items.all Option.isSome then some (.group (items.filterMap id)) else none
  expected [.identifier, .token "self", .token "super", .token "crate", .token "try", .token "*",
    .group .brace]

/-! ## Parts of items -/

/-- Whether a restriction of visibility comes next, such as `(crate)`. -/
def restrictionFollows : Ahead
  | .group .parenthesis [.word w _] _ _ :: _ => w == "crate" || w == "self" || w == "super"
  | _ => false

/-- Whether a restriction of visibility to a path comes next. -/
def pathRestrictionFollows : Ahead
  | .group .parenthesis content _ _ :: _ => Ahead.word "in" content
  | _ => false

/-- Who may see an item; answers whether anything was written. -/
def visibility : Parser Bool := do
  if !(← word? "pub") then return false
  if ← ahead restrictionFollows then drop
  else if ← ahead pathRestrictionFollows then
    parens do
      drop
      discard plainPath
  return true

/-- The calling convention of a function, if it is written. -/
def abi? : Parser Unit := do
  if ← word? "extern" then
    if ← ahead .text then drop

/-- Whether the head of a function comes next. -/
def functionFollows (allowSafe : Bool) : Parser Bool := wouldRead do
  discard <| word? "const"
  discard <| word? "async"
  if allowSafe && (← ahead (.word "safe")) then drop
  else discard <| word? "unsafe"
  abi?
  if !(← ahead (.word "fn")) then refuse "no function"

/-- A receiver, such as `&mut self`; answers where `self` stands. -/
def receiver (g : Grammar) : Parser Position := do
  let reference ← mark? "&"
  if reference && (← ahead .lifetime) then drop
  discard <| word? "mut"
  let p ← here
  word "self"
  if !reference then
    if ← mark? ":" then discard <| g.type true
  return p

/-- The parameters of a function. -/
def parameters (g : Grammar) : Parser Unit := do
  discard <| next true false
where
  /-- The parameters from the current one on; `first` tells that none came before, `received` that
  a receiver did. -/
  next (first received : Bool) : Parser Unit := do
    go ((← get).rest.length + 1) first received
  go : (fuel : Nat) → (first received : Bool) → Parser Unit
    | 0, _, _ => fail .tooDeep
    | fuel + 1, first, received => do
      if ← ahead .atEnd then return
      discard g.outerAttributes
      if ← mark? "..." then
        if !(← ahead .atEnd) then mark ","
        return
      match ← attempt g.receiver with
      | some p =>
        if received then failAt p (.refused "unexpected second method receiver")
        if !first then failAt p (.refused "unexpected method receiver")
        continues fuel true
      | none =>
        if ← ahead (fun ts => Ahead.ident ts && Ahead.second (.mark "<") ts) then
          discard <| g.type true
        else
          discard g.pattern
          mark ":"
          if ← mark? "..." then
            if !(← ahead .atEnd) then mark ","
            return
          discard <| g.type true
        continues fuel received
  termination_by fuel => (fuel, 0)
  continues (fuel : Nat) (received : Bool) : Parser Unit := do
    if ← ahead .atEnd then return
    mark ","
    go fuel false received
  termination_by (fuel, 1)

/-- The head of a function; answers its name. -/
def signature (g : Grammar) (allowSafe : Bool := false) : Parser String := do
  discard <| word? "const"
  discard <| word? "async"
  if allowSafe && (← ahead (.word "safe")) then drop
  else discard <| word? "unsafe"
  abi?
  word "fn"
  let name ← ident
  discard g.generics
  parens g.parameters
  if ← mark? "->" then discard <| g.type true
  discard g.whereClause?
  return name

/-- The fields of a struct between braces. -/
def namedFields (g : Grammar) : Parser Unit :=
  braces <| discard <| commaList do
    discard g.outerAttributes
    discard visibility
    let unnamed ← ahead (.word "_")
    if unnamed then drop else discard ident
    mark ":"
    let inlineType ← ahead fun ts =>
      Ahead.word "struct" ts || (Ahead.word "union" ts && Ahead.second .brace ts)
    if unnamed && inlineType then
      drop
      braces <| discard <| commaList (g.type true)
    else discard <| g.type true

/-- The fields of a struct between parentheses. -/
def unnamedFields (g : Grammar) : Parser Unit :=
  parens <| discard <| commaList do
    discard g.outerAttributes
    discard visibility
    discard <| g.type true

/-- How the name of a constant may look. -/
def constName : Parser String := do
  if ← ahead (.any [.ident, .word "_"]) then anyWord
  else expected [.identifier, .token "_"]

/-- A constant after its `const`; answers its name if it has a value and nothing unusual. -/
def constRest (g : Grammar) : Parser (Option String) := do
  let name ← constName
  let generic ← g.generics
  mark ":"
  discard <| g.type true
  let valued ← mark? "="
  if valued then discard g.expr
  let conditional ← g.whereClause?
  mark ";"
  return if valued && !generic && !conditional then some name else none

/-- Where the conditions of a type alias stand. -/
inductive ConditionPlace where
  | beforeDefinition
  | afterDefinition
  | anywhere
  deriving DecidableEq

/-- A type alias; answers its name if it is defined and has no bounds. -/
def typeAlias (g : Grammar) (allowDefault : Bool) (place : ConditionPlace) :
    Parser (Option String) := do
  discard visibility
  if allowDefault then discard <| word? "default"
  word "type"
  let name ← ident
  discard g.generics
  let bounded ← mark? ":"
  if bounded then g.boundsThrough (.any [.word "where", .mark "=", .mark ";"])
  let conditional ← if place == .afterDefinition then pure false else g.whereClause?
  let defined ← mark? "="
  if defined then discard <| g.type true
  if place != .beforeDefinition && !conditional then discard g.whereClause?
  mark ";"
  return if defined && !bounded then some name else none

/-- A macro call where an item may stand, with the semicolon it needs unless it has braces. -/
def macroItem : Parser Unit := do
  discard plainPath
  mark "!"
  let (d, _) ← anyGroup
  if d != .brace then mark ";"

/-- The words that name a macro at the start of a path. -/
def startsMacro : Ahead := .any [.ident, .word "self", .word "super", .word "crate", .mark "::"]

/-- What `startsMacro` stands for in a message. -/
def macroWords : List Expectation :=
  [.identifier, .token "self", .token "super", .token "crate", .token "::"]

/-! ## Items of items -/

/-- An item of an `impl`; answers its name if it is a function or a constant. -/
def implItem (g : Grammar) : Parser (Option String) := do
  let begin_ ← get
  discard g.outerAttributes
  let afterAttributes ← get
  let visible ← visibility
  let startsDefault ← ahead fun ts => Ahead.word "default" ts && !Ahead.second (.mark "!") ts
  if startsDefault then drop
  if ← functionFollows false then
    set begin_
    discard g.outerAttributes
    discard visibility
    discard <| word? "default"
    let name ← g.signature
    if ← mark? ";" then return none
    g.attributedBlock
    return some name
  else if ← ahead (.word "const") then
    drop
    g.constRest
  else if ← ahead (.word "type") then
    set afterAttributes
    discard <| g.typeAlias true .afterDefinition
    return none
  else if !visible && !startsDefault && (← ahead startsMacro) then
    macroItem
    return none
  else
    let start := if startsDefault then [] else [Expectation.token "default"]
    let inherited := !visible && !startsDefault
    expected (start ++ [Expectation.token "fn", .token "const", .token "type"] ++
      if inherited then macroWords else [])

/-- A function of a trait, with a body or a semicolon. -/
def traitFunction (g : Grammar) : Parser Unit := do
  discard g.signature
  if ← ahead .brace then g.attributedBlock
  else if ← mark? ";" then return
  else expected [.group .brace, .token ";"]

/-- An item of a `trait`. -/
def traitItem (g : Grammar) : Parser Unit := do
  discard g.outerAttributes
  let visible ← visibility
  let isDefault ← word? "default"
  if ← functionFollows false then g.traitFunction
  else if ← ahead (.word "const") then
    let begin_ ← get
    drop
    if ← ahead (.any [.ident, .word "_"]) then discard g.constRest
    else if ← ahead (.any [.word "async", .word "unsafe", .word "extern", .word "fn"]) then
      set begin_
      g.traitFunction
    else
      expected [.identifier, .token "_", .token "async", .token "unsafe", .token "extern",
        .token "fn"]
  else if ← ahead (.word "type") then discard <| g.typeAlias false .afterDefinition
  else if !visible && !isDefault && (← ahead startsMacro) then macroItem
  else
    expected ([Expectation.token "fn", .token "const", .token "type"] ++
      if !visible && !isDefault then macroWords else [])

/-- An item of a block of foreign items. -/
def foreignItem (g : Grammar) : Parser Unit := do
  discard g.outerAttributes
  let begin_ ← get
  let visible ← visibility
  let staticFollows : Ahead := fun ts => Ahead.word "static" ts ||
    (Ahead.any [.word "unsafe", .word "safe"] ts && Ahead.second (.word "static") ts)
  if ← functionFollows true then
    discard <| g.signature true
    if ← ahead .brace then g.attributedBlock else mark ";"
  else if ← ahead staticFollows then
    if !(← word? "unsafe") then discard <| word? "safe"
    word "static"
    discard <| word? "mut"
    discard ident
    mark ":"
    discard <| g.type true
    if ← mark? "=" then discard g.expr
    mark ";"
  else if ← ahead (.word "type") then
    set begin_
    discard <| g.typeAlias false .anywhere
  else if !visible && (← ahead startsMacro) then macroItem
  else
    expected ([Expectation.token "fn", .token "static", .token "type"] ++
      if visible then [] else macroWords)

/-! ## Items of a file -/

/-- A struct, a union or an enum after its keyword; answers its name. -/
def structItem (g : Grammar) : Parser Item := do
  discard visibility
  word "struct"
  let name ← ident
  discard g.generics
  let conditional ← g.whereClause?
  if !conditional && (← ahead .paren) then
    g.unnamedFields
    let conditional ← g.whereClause?
    if ← mark? ";" then return .declaration name
    expected (if conditional then [.token ";"] else [.token "where", .token ";"])
  if ← ahead .brace then
    g.namedFields
    return .declaration name
  if ← mark? ";" then return .declaration name
  expected (if conditional then [.group .brace, .token ";"]
    else [.token "where", .group .parenthesis, .group .brace, .token ";"])

def enumItem (g : Grammar) : Parser Item := do
  discard visibility
  word "enum"
  let name ← ident
  discard g.generics
  discard g.whereClause?
  braces <| discard <| commaList do
    discard g.outerAttributes
    discard visibility
    discard ident
    if ← ahead .brace then g.namedFields
    else if ← ahead .paren then g.unnamedFields
    if ← mark? "=" then discard g.expr
  return .declaration name

def unionItem (g : Grammar) : Parser Item := do
  discard visibility
  word "union"
  let name ← ident
  discard g.generics
  discard g.whereClause?
  g.namedFields
  return .declaration name

/-- A trait from its bounds on. -/
def traitRest (g : Grammar) : Parser Unit := do
  if ← mark? ":" then g.boundsThrough (.any [.word "where", .brace])
  discard g.whereClause?
  braces do
    g.innerAttributes
    discard <| untilEnd g.traitItem

/-- A trait, or another name for a sum of bounds. -/
def traitOrAlias (g : Grammar) : Parser Item := do
  discard visibility
  word "trait"
  discard ident
  discard g.generics
  if ← ahead (.any [.brace, .mark ":", .word "where"]) then g.traitRest
  else if ← mark? "=" then
    g.boundsThrough (.any [.word "where", .mark ";"])
    discard g.whereClause?
    mark ";"
  else expected [.group .brace, .token ":", .token "where", .token "="]
  return .other

/-- A trait that may be `unsafe` or `auto`. -/
def markedTrait (g : Grammar) : Parser Item := do
  discard visibility
  discard <| word? "unsafe"
  discard <| word? "auto"
  word "trait"
  discard ident
  discard g.generics
  g.traitRest
  return .other

/-- An `impl`. Its members count only if it names no trait, and nothing unusual is written. -/
def implItems (g : Grammar) : Parser Item := do
  let visible ← visibility
  discard <| word? "default"
  discard <| word? "unsafe"
  word "impl"
  if ← ahead parametersFollow then discard g.generics
  let constant ← ahead fun ts =>
    Ahead.word "const" ts || (Ahead.mark "?" ts && Ahead.second (.word "const") ts)
  if constant then
    discard <| mark? "?"
    word "const"
  let polarity ← here
  let negative ← ahead fun ts => Ahead.mark "!" ts && !Ahead.second .brace ts
  if negative then mark "!"
  let target ← g.type true
  let ofTrait ← word? "for"
  if ofTrait then discard <| g.type true
  else if negative then failAt polarity (.refused "inherent impls cannot be negative")
  discard g.whereClause?
  let names ← braces do
    g.innerAttributes
    untilEnd g.implItem
  if visible || constant || ofTrait then return .other
  return .members (lastName target.kind) (names.filterMap id)
where
  lastName : TypeKind → Option String
    | .path p => p.segments.getLast?.map (·.name)
    | _ => none

def moduleItem (g : Grammar) : Parser Item := do
  discard visibility
  discard <| word? "unsafe"
  word "mod"
  if ← ahead (.word "try") then drop else discard ident
  if ← mark? ";" then return .other
  if ← ahead .brace then
    braces do
      g.innerAttributes
      discard <| untilEnd g.item
    return .other
  expected [.token ";", .group .brace]

def externCrate : Parser Item := do
  discard visibility
  word "extern"
  word "crate"
  if ← ahead (.word "self") then drop else discard ident
  if ← word? "as" then
    if ← ahead (.word "_") then drop else discard ident
  mark ";"
  return .other

/-- A block of foreign items. -/
def foreignBlock (g : Grammar) : Parser Item := do
  discard <| word? "unsafe"
  word "extern"
  if ← ahead .text then drop
  braces do
    g.innerAttributes
    discard <| untilEnd g.foreignItem
  return .other

def useItem (g : Grammar) : Parser Item := do
  discard visibility
  word "use"
  let rooted ← mark? "::"
  let tree ← g.useTree (!rooted)
  mark ";"
  return match tree with
    | some tree => .use ⟨rooted, tree⟩
    | none => .other

def staticItem (g : Grammar) : Parser Item := do
  discard visibility
  word "static"
  discard <| word? "mut"
  discard ident
  if ← mark? "=" then
    discard g.expr
    mark ";"
  else
    mark ":"
    discard <| g.type true
    if ← mark? ";" then return .other
    mark "="
    discard g.expr
    mark ";"
  return .other

/-- A macro defined by `macro`. -/
def macroDefinition : Parser Item := do
  discard visibility
  word "macro"
  discard ident
  let parameterised ← ahead .paren
  if parameterised then parens skipAll
  if ← ahead .brace then
    braces skipAll
    return .other
  expected (if parameterised then [.group .brace] else [.group .parenthesis, .group .brace])

/-- A macro call where an item may stand. -/
def macroCallItem : Parser Item := do
  let pos ← here
  let path ← plainPath
  mark "!"
  let named ← ahead (.any [.word "try", .ident])
  if named then drop
  let (d, content, close) ← anyGroup
  if d != .brace then mark ";"
  return if named then .other else .macroCall ⟨path, pos, content, close⟩

/-- The words that start an item, as a message lists them. -/
def itemWords : List Expectation :=
  ["fn", "extern", "use", "static", "const", "unsafe", "mod", "type", "struct", "enum", "union",
    "trait", "auto", "impl", "default", "macro"].map .token

/-- An item. What it is shows behind its visibility. -/
def itemProduction (g : Grammar) : Parser Item := do
  discard g.outerAttributes
  let begin_ ← get
  let visible ← visibility
  let ts := (← get).rest
  if ← functionFollows false then
    discard g.signature
    if ← mark? ";" then return .other
    g.attributedBlock
    return .other
  else if Ahead.word "extern" ts then
    drop
    if ← ahead (.word "crate") then do set begin_; externCrate
    else if ← ahead .brace then do set begin_; g.foreignBlock
    else if ← ahead .text then
      drop
      if ← ahead .brace then do set begin_; g.foreignBlock
      else expected [.group .brace]
    else expected [.token "crate", .group .brace, .string]
  else if Ahead.word "use" ts then do set begin_; g.useItem
  else if Ahead.word "static" ts then do set begin_; g.staticItem
  else if Ahead.word "const" ts then
    drop
    discard g.constRest
    return .other
  else if Ahead.word "unsafe" ts then
    drop
    if ← ahead (fun ts => Ahead.word "trait" ts ||
        (Ahead.word "auto" ts && Ahead.second (.word "trait") ts)) then
      set begin_
      g.markedTrait
    else if ← ahead (.word "impl") then do set begin_; g.implItems
    else if ← ahead (.word "extern") then do set begin_; g.foreignBlock
    else if ← ahead (.word "mod") then do set begin_; g.moduleItem
    else expected [.token "trait", .token "auto", .token "impl", .token "extern", .token "mod"]
  else if Ahead.word "mod" ts then do set begin_; g.moduleItem
  else if Ahead.word "type" ts then
    set begin_
    return match ← g.typeAlias false .beforeDefinition with
      | some name => .declaration name
      | none => .other
  else if Ahead.word "struct" ts then do set begin_; g.structItem
  else if Ahead.word "enum" ts then do set begin_; g.enumItem
  else if Ahead.word "union" ts && Ahead.second .ident ts then do set begin_; g.unionItem
  else if Ahead.word "trait" ts then do set begin_; g.traitOrAlias
  else if Ahead.word "auto" ts && Ahead.second (.word "trait") ts then
    set begin_
    g.markedTrait
  else if Ahead.word "impl" ts || (Ahead.word "default" ts && !Ahead.second (.mark "!") ts) then
    set begin_
    g.implItems
  else if Ahead.word "macro" ts then do set begin_; macroDefinition
  else if !visible && startsMacro ts then macroCallItem
  else expected (itemWords ++ if visible then [] else macroWords)

end ContentModels.Source.Grammar
