import ContentModels.Source.Identifier
import ContentModels.Source.SyntaxError

/-!
# Reading token trees

A parser reads the tokens of one group, or of the file, from the front. Looking ahead is a test of
the tokens that are left and changes nothing. A group whose content is not used up is no error at
once: the first such place is remembered, and becomes the error of a text that has no other.

## Main definitions

* `Parser` — what reads tokens.
* `Ahead` — tests of the tokens that are left.
* `Parser.group` — reads the content of a group.
* `Parser.readAll` — reads a whole list of tokens.
-/

namespace ContentModels.Source

/-- The group being read: where it closes, and with what; the file itself closes with nothing. -/
structure Scope where
  close : Position := {}
  delimiter : Option Delimiter := none

/-- The tokens that are left of a group, and the first place where a group was not used up. -/
structure Input where
  rest : List Token
  leftover : Option (Position × Option Delimiter) := none

/-- A reader of tokens. -/
abbrev Parser := ReaderT Scope (StateT Input (Except SyntaxError))

/-! ## Looking ahead -/

/-- A test of the tokens that are left. -/
abbrev Ahead := List Token → Bool

namespace Ahead

/-- Whether a word of the given text comes next. -/
def word (text : String) : Ahead
  | .word t _ :: _ => t == text
  | _ => false

/-- Whether punctuation of the given characters comes next, without gaps between them. -/
def marks : List Char → Ahead
  | [], _ => false
  | [c], .punct d _ _ :: _ => c == d && c != '\''
  | c :: more, .punct d joint _ :: rest => c == d && c != '\'' && joint && marks more rest
  | _, _ => false

/-- Whether the given punctuation comes next. -/
def mark (text : String) : Ahead := marks text.toList

/-- Whether an identifier comes next. -/
def ident : Ahead
  | .word t _ :: _ => isUsableIdent t
  | _ => false

/-- Whether an identifier or keyword comes next. -/
def anyWord : Ahead
  | .word _ _ :: _ => true
  | _ => false

def lifetime : Ahead
  | .lifetime _ _ :: _ => true
  | _ => false

/-- Whether a literal comes next; a truth value is one, and a number may have a minus sign. -/
def literal : Ahead
  | .literal _ _ :: _ => true
  | .word t _ :: _ => t == "true" || t == "false"
  | .punct '-' _ _ :: .literal (.integer _ _) _ :: _ => true
  | .punct '-' _ _ :: .literal (.float _) _ :: _ => true
  | _ => false

def text : Ahead
  | .literal (.text _) _ :: _ => true
  | _ => false

def integer : Ahead
  | .literal (.integer _ _) _ :: _ => true
  | _ => false

/-- Whether a group comes next. -/
def group (d : Delimiter) : Ahead
  | .group d' _ _ _ :: _ => d == d'
  | _ => false

def paren : Ahead := group .parenthesis
def bracket : Ahead := group .bracket
def brace : Ahead := group .brace

/-- The test one token later. -/
def second (a : Ahead) : Ahead
  | _ :: rest => a rest
  | [] => false

/-- The test two tokens later. -/
def third (a : Ahead) : Ahead := second (second a)

/-- Whether the group is used up. -/
def atEnd : Ahead := List.isEmpty

/-- Whether one of the tests holds. -/
def any (tests : List Ahead) : Ahead := fun ts => tests.any fun a => a ts

/-- Whether the first test holds and the second does not. -/
def butNot (a b : Ahead) : Ahead := fun ts => a ts && !b ts

end Ahead

namespace Parser

/-! ## Errors -/

/-- Whether a test of the tokens that are left holds. -/
def ahead (a : Ahead) : Parser Bool := do return a (← get).rest

/-- Where the next token starts, or where the group closes. -/
def here : Parser Position := do
  match (← get).rest with
  | t :: _ => return t.pos
  | [] => return (← read).close

/-- Fails at a place. -/
def failAt {α : Type} (p : Position) (fault : SyntaxFault) : Parser α :=
  throw ⟨fault, false, p⟩

/-- Fails at the next token, or with a note that there is none. -/
def fail {α : Type} (fault : SyntaxFault) : Parser α := do
  throw ⟨fault, (← get).rest.isEmpty, ← here⟩

/-- Fails because none of the alternatives comes next. -/
def expected {α : Type} (alternatives : List Expectation) : Parser α :=
  fail (.expected alternatives)

/-- Fails with a reason in words. -/
def refuse {α : Type} (reason : String) : Parser α := fail (.refused reason)

/-! ## Single tokens -/

/-- Drops the next token. -/
def drop : Parser Unit := modify fun i => { i with rest := i.rest.tail }

/-- Reads a keyword. -/
def word (text : String) : Parser Unit := do
  if ← ahead (.word text) then drop else expected [.token text]

/-- Reads a keyword if it comes next. -/
def word? (text : String) : Parser Bool := do
  if ← ahead (.word text) then do drop; return true
  return false

/-- Reads punctuation. Its absence is reported without regard to the end of the group. -/
def mark (text : String) : Parser Unit := do
  if ← ahead (.mark text) then modify fun i => { i with rest := i.rest.drop text.length }
  else failAt (← here) (.expected [.token text])

/-- Reads punctuation if it comes next. -/
def mark? (text : String) : Parser Bool := do
  if ← ahead (.mark text) then do mark text; return true
  return false

/-- Reads an identifier. -/
def ident : Parser String := do
  match (← get).rest with
  | .word t _ :: _ =>
    if isUsableIdent t then do drop; return t
    else fail (.keyword t)
  | _ => expected [.identifier]

/-- Reads an identifier or keyword. -/
def anyWord : Parser String := do
  match (← get).rest with
  | .word t _ :: _ => do drop; return t
  | _ => expected [.other "ident"]

def lifetime : Parser Unit := do
  if ← ahead .lifetime then drop else expected [.lifetime]

/-- Reads a literal. -/
def literal : Parser Unit := do
  match (← get).rest with
  | .punct _ _ _ :: _ =>
    if ← ahead .literal then do drop; drop
    else expected [.literal]
  | _ => if ← ahead .literal then drop else expected [.literal]

/-- Reads a string and answers its value. -/
def text : Parser String := do
  match (← get).rest with
  | .literal (.text value) _ :: _ => do drop; return value
  | _ => expected [.string]

/-! ## Groups -/

/-- Reads a group: its content by `p`, which sees nothing but the content. -/
def group {α : Type} (d : Delimiter) (p : Parser α) : Parser α := fun scope input =>
  match input.rest with
  | .group d' content _ close :: rest =>
    if d = d' then do
      let (value, inner) ← p ⟨close, some d⟩ ⟨content, input.leftover⟩
      let unused := inner.rest.head?.map fun t => (t.pos, some d)
      return (value, ⟨rest, inner.leftover <|> unused⟩)
    else expected [.group d] scope input
  | _ => expected [.group d] scope input

def parens {α : Type} (p : Parser α) : Parser α := group .parenthesis p
def brackets {α : Type} (p : Parser α) : Parser α := group .bracket p
def braces {α : Type} (p : Parser α) : Parser α := group .brace p

/-- Reads a group of any kind without a look at its content; answers its delimiter and content with
the place where it closes. -/
def anyGroup : Parser (Delimiter × List Token × Position) := do
  match (← get).rest with
  | .group d content _ close :: _ => do drop; return (d, content, close)
  | _ => expected [.other "delimiter"]

/-- Reads what is left of the group without a look at it. -/
def skipAll : Parser Unit := modify fun i => { i with rest := [] }

/-! ## Trying and repeating -/

/-- Reads `p`, or nothing at all if `p` fails. A text that is nested too deeply stays one. -/
def attempt {α : Type} (p : Parser α) : Parser (Option α) := fun scope input =>
  match p scope input with
  | .ok (value, after) => .ok (some value, after)
  | .error e => if e.fault = .tooDeep then .error e else .ok (none, input)

/-- What `p` would answer here; nothing is read. -/
def peek {α : Type} (p : Parser α) : Parser α := do
  let input ← get
  let value ← p
  set input
  return value

/-- Whether `p` would succeed here; nothing is read. -/
def wouldRead {α : Type} (p : Parser α) : Parser Bool := peek do
  return (← attempt p).isSome

/-- Runs `body` until it answers nothing, at most `fuel` times. -/
def repeatFor {α : Type} (body : Parser (Option α)) : Nat → Parser (List α)
  | 0 => fail .tooDeep
  | fuel + 1 => do
    match ← body with
    | some value => return value :: (← repeatFor body fuel)
    | none => return []

/-- Runs `body` until it answers nothing. Every run reads a token, so the tokens that are left bound
the number of runs. -/
def repeatUntil {α : Type} (body : Parser (Option α)) : Parser (List α) := do
  repeatFor body ((← get).rest.length + 2)

/-- Reads `p` until the group is used up. -/
def untilEnd {α : Type} (p : Parser α) : Parser (List α) :=
  repeatUntil do if ← ahead .atEnd then return none else return some (← p)

/-- Reads `p` separated by `sep`, up to the tokens that `stop` recognises; a separator may come
last. -/
def separated {α : Type} (stop : Ahead) (sep : Parser Unit) (p : Parser α) : Parser (List α) := do
  if ← ahead stop then return []
  let first ← p
  let rest ← repeatUntil do
    if ← ahead stop then return none
    sep
    if ← ahead stop then return none
    return some (← p)
  return first :: rest

/-- Reads `p` separated by commas to the end of the group. -/
def commaList {α : Type} (p : Parser α) : Parser (List α) := separated .atEnd (mark ",") p

/-- Reads all of `tokens` by `p`. -/
def readAll {α : Type} (p : Parser α) (close : Position) (tokens : List Token) :
    Except SyntaxError α := do
  let (value, after) ← p ⟨close, none⟩ ⟨tokens, none⟩
  match after.leftover, after.rest with
  | some (pos, inside), _ => throw ⟨.leftover inside, false, pos⟩
  | none, t :: _ => throw ⟨.leftover none, false, t.pos⟩
  | none, [] => return value

end Parser

end ContentModels.Source
