import ContentModels.Toml.Token

/-!
# The form of TOML documents

A document is a sequence of statements, a line each: pairs of a key and a value, and headers of
tables. Its form is checked as a whole before a single key or value is looked at. A key or a value
that is missing where its place is plain counts as an empty one, which is refused later.

## Main definitions

* `Toml.Written`, `Toml.KeyForm`, `Toml.ValueForm`, `Toml.Statement` — the parts of a document.
* `Toml.statements` — the statements of a document.
-/

namespace ContentModels.Toml

open Text

/-- Part of a key, or a value without parts, as it is written. -/
structure Written where
  quote : Option Quote
  text : List Char
  start : Nat
  deriving DecidableEq, Repr

def Written.span (w : Written) : Span := ⟨w.start, w.start + byteCount w.text⟩

/-- What stands for a part that is missing before a token. -/
def Written.missing (t : Token) : Written := ⟨none, [], t.start⟩

/-- A key: where it leads through, and its last part. -/
structure KeyForm where
  path : List Written := []
  last : Written
  deriving DecidableEq, Repr

/-- The key of a first part and those that follow it. -/
def KeyForm.ofParts (first : Written) : List Written → KeyForm
  | [] => ⟨[], first⟩
  | next :: rest =>
    let key := KeyForm.ofParts next rest
    ⟨first :: key.path, key.last⟩

/-- A value as it is written. -/
inductive ValueForm where
  | scalar (w : Written)
  | array (span : Span) (items : List ValueForm)
  | inlineTable (span : Span) (entries : List (KeyForm × ValueForm))

/-- The part of the document that a value is. -/
def ValueForm.span : ValueForm → Span
  | scalar w => w.span
  | array span _ => span
  | inlineTable span _ => span

/-- A line of a document. -/
inductive Statement where
  | pair (key : KeyForm) (value : ValueForm)
  /-- The start of a table, or of one more table of an array. -/
  | header (isArray : Bool) (key : KeyForm) (span : Span)

/-- The error that the form of a document has a fault. -/
def formError {α : Type} (fault : SyntaxFault) (span : Span) : Except Error α :=
  .error ⟨.form fault, span⟩

/-! ## Blanks, comments and line breaks -/

/-- Characters that may stand in a comment. -/
def isVisible (c : Char) : Bool := c == '\t' || (' ' ≤ c && c != '\x7f')

/-- Refuses a comment with a character that cannot be seen. -/
def checkComment (t : Token) : Except Error Unit :=
  let good := t.text.takeWhile isVisible
  if good.length = t.text.length then .ok ()
  else formError .commentCharacter (.point (t.start + byteCount good))

/-- Refuses a carriage return on its own. -/
def checkNewline (t : Token) : Except Error Unit :=
  if t.text = ['\r'] then formError .loneReturn t.span.after else .ok ()

def skipBlanks : List Token → List Token := List.dropWhile fun t => t.kind == .blank

/-- Reads what may stand behind the content of a line, and the end of the line. -/
def endOfLine (tokens : List Token) : Except Error (List Token) := do
  match skipBlanks tokens with
  | [] => return []
  | t :: rest =>
    match t.kind with
    | .newline =>
      checkNewline t
      return rest
    | .comment =>
      checkComment t
      return rest
    | .finish => return t :: rest
    | _ => formError .lineGoesOn t.span.before

/-- Reads over what is left of a line. -/
def skipLine : List Token → Except Error (List Token)
  | [] => .ok []
  | t :: rest =>
    match t.kind with
    | .newline => do
      checkNewline t
      return rest
    | .comment => do
      checkComment t
      return rest
    | .finish => .ok (t :: rest)
    | _ => skipLine rest

/-! ## Keys -/

mutual

/-- The parts of a key behind one that was read, whether the last of them is there, and the tokens
behind the key. -/
def moreParts : List Token → List Written × Bool × List Token
  | [] => ([], true, [])
  | t :: rest =>
    match t.kind with
    | .blank => moreParts rest
    | .dot => parts rest
    | _ => ([], true, t :: rest)

/-- The parts of a key, whether the last of them is there, and the tokens behind the key. -/
def parts : List Token → List Written × Bool × List Token
  | [] => ([], false, [])
  | t :: rest =>
    match t.kind with
    | .blank => parts rest
    | .dot => let (more, r) := parts rest; (.missing t :: more, r)
    | .atom => let (more, r) := moreParts rest; (⟨none, t.text, t.start⟩ :: more, r)
    | .string quote => let (more, r) := moreParts rest; (⟨some quote, t.text, t.start⟩ :: more, r)
    | _ => ([.missing t], false, t :: rest)

end

/-- The key that starts with a token: with a dot, a part is missing before it. -/
def keyFrom (t : Token) (rest : List Token) : KeyForm × List Token :=
  match t.kind with
  | .dot =>
    let (more, _, rest) := parts rest
    (.ofParts (.missing t) more, rest)
  | .string quote =>
    let (more, _, rest) := moreParts rest
    (.ofParts ⟨some quote, t.text, t.start⟩ more, rest)
  | _ =>
    let (more, _, rest) := moreParts rest
    (.ofParts ⟨none, t.text, t.start⟩ more, rest)

/-! ## Values -/

/-- The text behind the first token of a value without quotes, and the tokens behind the value. It
goes on over dots, and over blanks to further text. -/
def unquotedRest : List Token → List Char × List Token
  | [] => ([], [])
  | [t] => if t.kind = .dot ∨ t.kind = .atom then (t.text, []) else ([], [t])
  | t :: u :: rest =>
    if t.kind = .dot ∨ t.kind = .atom then
      let (text, after) := unquotedRest (u :: rest)
      (t.text ++ text, after)
    else if t.kind = .blank ∧ u.kind = .atom then
      let (text, after) := unquotedRest rest
      (t.text ++ u.text ++ text, after)
    else ([], t :: u :: rest)

/-- The value without parts that starts with a token. -/
def scalarFrom (t : Token) (rest : List Token) : Written × List Token :=
  match t.kind with
  | .string quote => (⟨some quote, t.text, t.start⟩, rest)
  | _ =>
    let (text, after) := unquotedRest rest
    (⟨none, t.text ++ text, t.start⟩, after)

/-- How deep arrays and inline tables may be nested. -/
def maxDepth : Nat := 80

/-- Refuses a container that is nested too deep. -/
def checkDepth (depth : Nat) (t : Token) : Except Error Unit :=
  if depth ≤ maxDepth then .ok () else formError .tooDeep t.span

/-- Where the reading of an inline table stands. -/
inductive InlineStep where
  | needsKey
  | needsEquals (key : KeyForm)
  | needsValue (key : KeyForm)
  | needsComma

def InlineStep.state : InlineStep → InlineState
  | needsKey => .key
  | needsEquals _ => .equals
  | needsValue _ => .value
  | needsComma => .comma

mutual

/-- Reads the value that starts with a token, `depth` containers deep. -/
def container (fuel depth : Nat) (t : Token) (rest : List Token) :
    Except Error (ValueForm × List Token) := do
  match fuel with
  | 0 => formError .tooDeep t.span
  | fuel + 1 =>
    match t.kind with
    | .openBracket =>
      checkDepth (depth + 1) t
      let (items, close, rest) ← arrayItems fuel (depth + 1) false rest
      return (.array (t.span.through close) items, rest)
    | .openBrace =>
      checkDepth (depth + 1) t
      let (entries, close, rest) ← inlineEntries fuel (depth + 1) .needsKey rest
      return (.inlineTable (t.span.through close) entries, rest)
    | _ =>
      let (w, rest) := scalarFrom t rest
      return (.scalar w, rest)

/-- Reads the items of an array up to its end; `comma` tells whether a comma has to come first. -/
def arrayItems (fuel depth : Nat) (comma : Bool) :
    List Token → Except Error (List ValueForm × Span × List Token)
  | [] => formError .unclosedArray (.point 0)
  | t :: rest =>
    match fuel with
    | 0 => formError .tooDeep t.span
    | fuel + 1 =>
      match t.kind with
      | .blank => arrayItems fuel depth comma rest
      | .comment => do
        checkComment t
        arrayItems fuel depth comma rest
      | .newline => do
        checkNewline t
        arrayItems fuel depth comma rest
      | .finish => formError .unclosedArray t.span
      | .comma =>
        if comma then arrayItems fuel depth false rest else formError .extraArrayComma t.span
      | .equals => formError .equalsInArray t.span
      | .closeBracket => .ok ([], t.span, rest)
      | .closeBrace =>
        formError (if comma then .missingArrayComma else .missingInlineTableOpen) t.span.before
      | .openBracket | .openBrace | .dot | .atom | .string _ =>
        if comma then formError .missingArrayComma t.span.before
        else do
          let (item, rest) ← container fuel depth t rest
          let (items, close, rest) ← arrayItems fuel depth true rest
          return (item :: items, close, rest)

/-- Reads the entries of an inline table up to its end. -/
def inlineEntries (fuel depth : Nat) (step : InlineStep) :
    List Token → Except Error (List (KeyForm × ValueForm) × Span × List Token)
  | [] => formError .unclosedInlineTable (.point 0)
  | t :: rest =>
    match fuel with
    | 0 => formError .tooDeep t.span
    | fuel + 1 =>
      match t.kind, step with
      | .blank, _ => inlineEntries fuel depth step rest
      | .comment, _ => do
        checkComment t
        inlineEntries fuel depth step rest
      | .newline, _ => do
        checkNewline t
        inlineEntries fuel depth step rest
      | .finish, _ => formError .unclosedInlineTable t.span
      | .comma, .needsComma => inlineEntries fuel depth .needsKey rest
      | .comma, _ => formError (.extraInlineComma step.state) t.span.before
      | .equals, .needsKey => inlineEntries fuel depth (.needsValue ⟨[], .missing t⟩) rest
      | .equals, .needsEquals key => inlineEntries fuel depth (.needsValue key) rest
      | .equals, _ => formError (.extraAssignment step.state) t.span.before
      | .closeBrace, .needsEquals _ => formError .missingAssignment t.span.before
      | .closeBrace, .needsValue key => .ok ([(key, .scalar (.missing t))], t.span, rest)
      | .closeBrace, _ => .ok ([], t.span, rest)
      | .closeBracket, .needsValue _ => formError .missingArrayOpen t.span.before
      | .closeBracket, _ => formError (.invalidInlineElement step.state) t.span.before
      | .openBracket, .needsKey | .openBracket, .needsComma | .openBrace, .needsKey
      | .openBrace, .needsComma => formError (.missingInlineKey step.state) t.span.before
      | _, .needsKey =>
        let (key, rest) := keyFrom t rest
        inlineEntries fuel depth (.needsEquals key) rest
      | _, .needsEquals _ => formError .missingAssignment t.span.before
      | _, .needsComma => formError .missingInlineComma t.span.before
      | _, .needsValue key => do
        let (value, rest) ← container fuel depth t rest
        let (entries, close, rest) ← inlineEntries fuel depth .needsComma rest
        return ((key, value) :: entries, close, rest)

end

/-- Reads a value. -/
def value (tokens : List Token) : Except Error (ValueForm × List Token) :=
  match skipBlanks tokens with
  | [] => formError .missingValue (.point 0)
  | t :: rest =>
    match t.kind with
    | .comment | .comma | .newline | .finish | .blank => .ok (.scalar (.missing t), t :: rest)
    | .equals => formError .extraEquals t.span
    | .closeBrace => formError .missingInlineTableOpen t.span.before
    | .closeBracket => formError .missingArrayOpen t.span.before
    | _ => container (2 * rest.length + 2) 0 t rest

/-! ## Statements -/

/-- Reads a pair whose key was read; `fault` is what is wrong if there is no `=`. -/
def pairBehind (key : KeyForm) (fault : SyntaxFault) :
    List Token → Except Error (Statement × List Token)
  | [] => formError fault (.point 0)
  | t :: rest =>
    if t.kind = .equals then do
      let (v, rest) ← value rest
      return (.pair key v, ← endOfLine rest)
    else formError fault t.span.before

/-- Reads the end of a header. -/
def headerEnd (isArray present : Bool) (key : KeyForm) (start : Span) (tokens : List Token) :
    Except Error (Statement × List Token) :=
  match isArray, tokens with
  | false, ⟨.closeBracket, text, place⟩ :: rest => do
    let close : Token := ⟨.closeBracket, text, place⟩
    return (.header false key (start.through close.span), ← endOfLine rest)
  | true, ⟨.closeBracket, _, _⟩ :: ⟨.closeBracket, text, place⟩ :: rest => do
    let close : Token := ⟨.closeBracket, text, place⟩
    return (.header true key (start.through close.span), ← endOfLine rest)
  | true, ⟨.closeBracket, text, place⟩ :: _ =>
    let close : Token := ⟨.closeBracket, text, place⟩
    formError (.unclosedArrayTable "]") close.span.after
  | _, rest =>
    if present then
      formError (if isArray then .unclosedArrayTable "]]" else .unclosedTable) key.last.span.after
    else do return (.header isArray key start, ← skipLine rest)

/-- Reads a header whose first bracket was read. -/
def header (first : Token) (tokens : List Token) : Except Error (Statement × List Token) :=
  let (isArray, tokens) := match tokens with
    | ⟨.openBracket, _, _⟩ :: rest => (true, rest)
    | _ => (false, tokens)
  match parts tokens with
  | (part :: more, present, rest) =>
    headerEnd isArray present (.ofParts part more) first.span rest
  | ([], _, _) => formError .unclosedTable first.span.after

/-- Reads a statement that starts with a token. -/
def statement (t : Token) (rest : List Token) : Except Error (Statement × List Token) :=
  match t.kind with
  | .openBracket => header t rest
  | .closeBracket => formError .missingTableOpen t.span.before
  | .equals => pairBehind ⟨[], .missing t⟩ .keyWithoutValue (t :: rest)
  | .dot => let (key, rest) := keyFrom t rest; pairBehind key .missingValue rest
  | .string _ | .atom => let (key, rest) := keyFrom t rest; pairBehind key .keyWithoutValue rest
  | _ => formError .noPair t.span.before

/-- The statements of some tokens. -/
def statementsFrom : (fuel : Nat) → List Token → Except Error (List Statement)
  | 0, _ => .ok []
  | _, [] => .ok []
  | fuel + 1, t :: rest =>
    match t.kind with
    | .finish => .ok []
    | .blank => statementsFrom fuel rest
    | .newline => do
      checkNewline t
      statementsFrom fuel rest
    | .comment => do
      checkComment t
      statementsFrom fuel rest
    | _ => do
      let (s, rest) ← statement t rest
      return s :: (← statementsFrom fuel rest)

/-- The statements of a document. -/
def statements (document : List Char) : Except Error (List Statement) :=
  let tokens := tokenize document
  statementsFrom tokens.length tokens

end ContentModels.Toml
