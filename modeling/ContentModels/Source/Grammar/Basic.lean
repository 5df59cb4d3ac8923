import ContentModels.Source.Parser

/-!
# The grammar of source files

Types, expressions, patterns, statements and items refer to each other. Each production is a plain
definition that gets the others as a `Grammar`, the record of the productions that recursion needs.
`Grammar.ofDepth` in `Source.Grammar.File` ties the knot up to a depth of nesting.

A reader of models wants little of what it reads. A production answers a form: the few facts about
what was read that decide how reading goes on, or that a model is built from.

## Main definitions

* `TypeForm`, `ExprForm`, `PatternForm` — what is kept of types, expressions and patterns.
* `UseTree`, `Item` — what is kept of imports and items.
* `Grammar` — the productions that refer to each other.
-/

namespace ContentModels.Source

/-- The arguments behind a name in a path. -/
inductive Arguments where
  | none
  /-- Arguments between angle brackets, perhaps none at all. -/
  | angle (empty : Bool)
  /-- Arguments and result of a function trait. -/
  | paren
  deriving DecidableEq, Repr

/-- One name of a path. -/
structure Segment where
  name : String
  arguments : Arguments := .none
  deriving DecidableEq, Repr

/-- A path such as `std::fmt::Display`; `rooted` tells that it starts with `::`. -/
structure NamePath where
  rooted : Bool
  segments : List Segment
  deriving DecidableEq, Repr

/-- Whether no name of a path has arguments. -/
def NamePath.isPlain (p : NamePath) : Bool := p.segments.all fun s => s.arguments == .none

/-- Whether the last name of a path has no arguments, or an empty list of them. -/
def NamePath.takesArguments (p : NamePath) : Bool :=
  match p.segments.getLast? with
  | some ⟨_, .paren⟩ => false
  | some ⟨_, .angle empty⟩ => empty
  | _ => true

/-- The path with other arguments behind its last name. -/
def NamePath.withArguments (p : NamePath) (arguments : Arguments) : NamePath :=
  match p.segments.getLast? with
  | some s => { p with segments := p.segments.dropLast ++ [{ s with arguments }] }
  | none => p

/-- The kinds of types that matter to what may follow. -/
inductive TypeKind where
  | path (p : NamePath)
  /-- A path that starts from a type between angle brackets. -/
  | qualified
  /-- Traits: how many bounds, and whether `dyn` or a trailing plus sign was written. -/
  | object (dyn : Bool) (bounds : Nat) (trailing : Bool)
  | paren
  | other
  deriving DecidableEq, Repr

structure TypeForm where
  kind : TypeKind := .other
  endsWithBrace : Bool := false
  deriving DecidableEq, Repr

/-- The kinds of expressions that matter to what may follow. -/
inductive ExprKind where
  | range
  | comparison
  /-- An expression that ends its statement without a semicolon. -/
  | block
  | macroCall (delimiter : Delimiter)
  | other
  deriving DecidableEq, Repr

structure ExprForm where
  kind : ExprKind := .other
  endsWithBrace : Bool := false
  deriving DecidableEq, Repr

/-- The kinds of patterns that matter to what may follow. -/
inductive PatternForm where
  /-- Two dots on their own. -/
  | rest
  /-- A range without a start or without an end; the place is that of its dots. -/
  | openRange (pos : Position)
  | other
  deriving DecidableEq, Repr

/-- How strongly operators bind, weakest first. -/
inductive Precedence where
  | lowest | assign | range | disjunction | conjunction | binding | comparison | bitOr | bitXor
  | bitAnd | shift | sum | product | cast
  deriving DecidableEq, Repr

def Precedence.rank : Precedence → Nat
  | .lowest => 0
  | .assign => 1
  | .range => 2
  | .disjunction => 3
  | .conjunction => 4
  | .binding => 5
  | .comparison => 6
  | .bitOr => 7
  | .bitXor => 8
  | .bitAnd => 9
  | .shift => 10
  | .sum => 11
  | .product => 12
  | .cast => 13

/-- What an import brings into scope. -/
inductive UseTree where
  /-- `name::tree` -/
  | path (name : String) (tree : UseTree)
  | name (name : String)
  /-- `name as newName` -/
  | rename (name newName : String)
  /-- `*` -/
  | glob
  /-- The trees between braces. -/
  | group (items : List UseTree)
  deriving Repr

/-- An import; `rooted` tells that it starts with `::`. -/
structure UseItem where
  rooted : Bool
  tree : UseTree
  deriving Repr

/-- The call of a macro where an item may stand. -/
structure MacroCall where
  path : NamePath
  pos : Position
  arguments : List Token
  /-- Where the arguments close. -/
  close : Position
  deriving Repr

/-- An item of a file, as far as models are concerned. -/
inductive Item where
  /-- An `impl` without a trait: the name of its type, and its functions and constants. -/
  | members (model : Option String) (names : List String)
  /-- A declared type. -/
  | declaration (name : String)
  | macroCall (call : MacroCall)
  | use (item : UseItem)
  | other
  deriving Repr

/-- The productions that refer to each other. -/
structure Grammar where
  /-- A type; `plus` allows a sum of bounds. -/
  type : (plus : Bool) → Parser TypeForm
  /-- An operand with its prefix operators; `structs` allows a struct literal. -/
  unary : (structs : Bool) → Parser ExprForm
  /-- The operators behind an operand that bind at least as strongly as `base`. -/
  operators : (structs : Bool) → (base : Precedence) → ExprForm → Parser ExprForm
  /-- An expression that stands as a statement. -/
  statementExpr : Parser ExprForm
  /-- A parameter between angle brackets, with its attributes. -/
  genericParam : Parser Unit
  /-- An argument between angle brackets. -/
  genericArgument : Parser Unit
  /-- A pattern without alternatives. -/
  pattern : Parser PatternForm
  /-- The statements up to the end of the group. -/
  statements : Parser Unit
  item : Parser Item
  /-- What follows `use`; a tree that starts with `::` inside braces answers nothing. -/
  useTree : (rootInside : Bool) → Parser (Option UseTree)

namespace Grammar

open ContentModels.Source.Parser

/-- The grammar that reads nothing. -/
def nothing : Grammar where
  type _ := fail .tooDeep
  unary _ := fail .tooDeep
  operators _ _ _ := fail .tooDeep
  statementExpr := fail .tooDeep
  genericParam := fail .tooDeep
  genericArgument := fail .tooDeep
  pattern := fail .tooDeep
  statements := fail .tooDeep
  item := fail .tooDeep
  useTree _ := fail .tooDeep

/-- An expression. -/
def expr (g : Grammar) (structs : Bool := true) : Parser ExprForm := do
  g.operators structs .lowest (← g.unary structs)

/-- A path of words alone, as attributes and macros are named. -/
def plainPath : Parser NamePath := do
  let rooted ← mark? "::"
  let startsSegment := Ahead.any
    [.ident, .word "super", .word "self", .word "Self", .word "crate"]
  if !(← ahead startsSegment) then
    let _ ← ident
  let first ← anyWord
  let more ← repeatUntil do
    if !(← ahead (.mark "::")) then return none
    mark "::"
    if ← ahead startsSegment then return some (← anyWord)
    expected [.other "path segment after `::`"]
  return ⟨rooted, (first :: more).map fun name => { name }⟩

/-! ## Attributes -/

/-- The content of an attribute. -/
def attributeContent (g : Grammar) : Parser Unit := do
  if ← ahead (.word "unsafe") then drop else discard plainPath
  if ← ahead (.any [.paren, .bracket, .brace]) then
    discard anyGroup
  else if ← ahead (fun ts => Ahead.mark "=" ts && !Ahead.mark "==" ts && !Ahead.mark "=>" ts) then
    mark "="
    let literalAlone ← attempt do
      literal
      if !(← ahead .atEnd) then refuse "literal with more behind it"
    if literalAlone.isNone then
      if ← ahead (fun ts => Ahead.mark "#" ts && Ahead.second .bracket ts) then
        refuse "unexpected attribute inside of attribute"
      discard g.expr

/-- Attributes before what they belong to; answers whether there were any. -/
def outerAttributes (g : Grammar) : Parser Bool := do
  let found ← repeatUntil do
    if ← mark? "#" then
      brackets g.attributeContent
      return some ()
    return none
  return !found.isEmpty

/-- Attributes at the start of what they belong to. -/
def innerAttributes (g : Grammar) : Parser Unit := do
  discard <| repeatUntil do
    if ← ahead (fun ts => Ahead.mark "#" ts && Ahead.second (.mark "!") ts) then
      mark "#"
      mark "!"
      brackets g.attributeContent
      return some ()
    return none

/-- A block in braces. -/
def block (g : Grammar) : Parser Unit := braces g.statements

/-- A block in braces that may start with attributes. -/
def attributedBlock (g : Grammar) : Parser Unit := braces do
  g.innerAttributes
  g.statements

end Grammar

end ContentModels.Source
