import ContentModels.Text.Digits
import ContentModels.Toml.Syntax

/-!
# Strings of TOML documents

A literal string holds what stands between its quotes. In a basic string a backslash starts an
escape; in one of several lines it may also stand at the end of a line, and hides the line break and
the blanks behind it. A line break behind the opening quotes of a string of several lines does not
count.

## Main definitions

* `Toml.quotedText` — what a string holds.
-/

namespace ContentModels.Toml

open Text

/-- The error that a key or a value without parts has a fault. -/
def scalarError {α : Type} (fault : ScalarFault) (span : Span) : Except Error α :=
  .error ⟨.scalar fault, span⟩

/-- Characters that may stand in a string as they are, a quote or a backslash apart. -/
def isPlain (c : Char) : Bool := isVisible c && c != '"' && c != '\\'

/-! ## Literal strings -/

/-- The content of a literal string, which starts at the byte `place`. -/
def literalText (quote : Quote) (place : Nat) : List Char → Except Error (List Char)
  | [] => .ok []
  | '\r' :: '\n' :: rest =>
    if quote = .multiLiteral then
      ('\r' :: '\n' :: ·) <$> literalText quote (place + 2) rest
    else scalarError (.stringCharacter quote) (.point place)
  | c :: rest =>
    if isVisible c || (c == '\n' && quote == .multiLiteral) then
      (c :: ·) <$> literalText quote (place + c.utf8Size) rest
    else if c = '\r' ∧ quote = .multiLiteral then scalarError .loneReturn (.point (place + 1))
    else scalarError (.stringCharacter quote) (.point place)

/-! ## Escapes -/

/-- The simple escapes: the character behind the backslash and the one it stands for. -/
def simpleEscapes : List (Char × Char) := [
  ('b', '\x08'), ('e', '\x1b'), ('f', '\x0c'), ('n', '\n'), ('r', '\r'), ('t', '\t'),
  ('\\', '\\'), ('"', '"')]

/-- The escapes that are followed by the digits of a character's code: how many of them. -/
def codeEscapes : List (Char × Nat) := [('x', 2), ('u', 4), ('U', 8)]

/-- The character whose code has `count` digits, and what follows them. -/
def codeEscape (count place : Nat) (cs : List Char) : Except Error (Char × List Char) :=
  let digits := (cs.take count).takeWhile isHexDigit
  let code := valueIn 16 digits
  if digits.length < count then scalarError .fewDigits (.point place)
  else if code.isValidChar then .ok (Char.ofNat code, cs.drop count)
  else scalarError .invalidCode (.point place)

/-- The character of an escape whose backslash was read, and what follows it. -/
def escapedChar (place : Nat) : List Char → Except Error (Char × List Char)
  | [] => scalarError .missingEscape (.point place)
  | c :: rest =>
    match simpleEscapes.lookup c, codeEscapes.lookup c with
    | some value, _ => .ok (value, rest)
    | none, some count => codeEscape count (place + 1) rest
    | none, none => scalarError .missingEscape (.point place)

/-! ## Basic strings -/

/-- What follows the line break that a backslash hides, with the blanks behind it. -/
def hiddenBreak (place : Nat) (cs : List Char) : Except Error (List Char) :=
  let tabs := cs.takeWhile isTab
  let place := place + tabs.length
  match cs.drop tabs.length with
  | '\n' :: rest => behindBreak (place + 1) rest
  | '\r' :: '\n' :: rest => behindBreak (place + 2) rest
  | '\r' :: _ => scalarError .loneReturn (.point (place + 1))
  | _ => scalarError .lineGoesOn (.point place)
where
  /-- What follows blanks and line breaks. -/
  behindBreak (place : Nat) : List Char → Except Error (List Char)
    | '\r' :: '\n' :: rest => behindBreak (place + 2) rest
    | '\r' :: _ => scalarError .loneReturn (.point (place + 1))
    | c :: rest => if isTab c || c == '\n' then behindBreak (place + 1) rest else .ok (c :: rest)
    | [] => .ok []

/-- Whether a backslash before the text hides a line break. -/
def hidesBreak : List Char → Bool
  | c :: _ => isTab c || endsLine c
  | [] => false

/-- The content of a basic string, which ends at the byte `stop`. -/
def basicText (quote : Quote) (stop : Nat) : (fuel : Nat) → List Char → Except Error (List Char)
  | 0, _ => .ok []
  | _, [] => .ok []
  | fuel + 1, c :: rest =>
    let place := stop - byteCount (c :: rest)
    let several := quote = .multiBasic
    if c = '\\' then
      if several ∧ hidesBreak rest then do
        basicText quote stop fuel (← hiddenBreak (place + 1) rest)
      else do
        let (value, rest) ← escapedChar (place + 1) rest
        (value :: ·) <$> basicText quote stop fuel rest
    else if isPlain c ∨ (several ∧ (c = '"' ∨ c = '\n')) then
      (c :: ·) <$> basicText quote stop fuel rest
    else if several ∧ c = '\r' then
      if rest.head? = some '\n' then (c :: ·) <$> basicText quote stop fuel rest
      else scalarError .loneReturn (.point (place + 1))
    else
      let good (d : Char) : Bool :=
        isPlain d || d == '\\' || (several && (d == '"' || endsLine d))
      let bad := c :: rest.takeWhile fun d => !good d
      scalarError (.stringCharacter quote) ⟨place, place + byteCount bad⟩

/-! ## Strings -/

/-- How many quotes start a string, and end it. -/
def quoteCount : Quote → Nat
  | .literal | .basic => 1
  | .multiLiteral | .multiBasic => 3

/-- The number of characters of a line break behind the opening quotes that does not count. -/
def skippedBreak (quote : Quote) (cs : List Char) : Nat :=
  if quoteCount quote = 1 then 0
  else
    match cs with
    | '\n' :: _ => 1
    | '\r' :: '\n' :: _ => 2
    | _ => 0

/-- What a string holds. -/
def quotedText (quote : Quote) (w : Written) : Except Error String := do
  let count := quoteCount quote
  let body := w.text.drop count
  let opening := count + skippedBreak quote body
  let content := w.text.drop opening
  let closing := List.replicate count quote.mark
  if !closing.isSuffixOf content then scalarError (.unclosedString quote) w.span.after
  else
    let content := content.take (content.length - count)
    let start := w.start + opening
    let chars ← match quote with
      | .literal | .multiLiteral => literalText quote start content
      | .basic | .multiBasic =>
        basicText quote (start + byteCount content) (content.length + 1) content
    return String.ofList chars

/-- The quotes around a string as they are written. -/
def Quote.written (quote : Quote) : String :=
  String.ofList (List.replicate (quoteCount quote) quote.mark)

end ContentModels.Toml
