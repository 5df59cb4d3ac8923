import ContentModels.Text.Blank
import ContentModels.Text.Digits
import ContentModels.Source.Identifier
import ContentModels.Source.Token

/-!
# Literals of source text

Every reader takes the characters at its start and answers the literal with the characters after it,
or nothing if the text does not start with a complete literal of its kind.

## Main definitions

* `Lexer.stringBody` — the text between double quotes, with escapes resolved.
* `Lexer.rawBody` — the text of a raw string.
* `Lexer.literal` — any literal.
-/

namespace ContentModels.Source.Lexer

open Text

/-- What a quoted literal holds. -/
inductive StringForm where
  | text
  | bytes
  /-- Text for a C library, which cannot hold a zero byte. -/
  | terminated
  deriving DecidableEq, Repr

/-- Whether a character may stand as it is in a literal of the form. -/
def StringForm.admits : StringForm → Char → Bool
  | .text, _ => true
  | .bytes, c => c.toNat < 0x80
  | .terminated, c => c != '\x00'

/-- The character with a code, unless the code is a surrogate or too large. -/
def scalar (code : Nat) : Option Char :=
  if code < 0xd800 ∨ (0xdfff < code ∧ code < 0x110000) then some (Char.ofNat code) else none

/-- The rest of a Unicode escape after its opening brace: up to six digits, and underscores after
the first of them. -/
def unicodeDigits : (digits value : Nat) → List Char → Option (Char × List Char)
  | _, _, [] => none
  | digits, value, c :: rest =>
    match hexDigit? c with
    | some d => if digits = 6 then none else unicodeDigits (digits + 1) (value * 16 + d) rest
    | none =>
      if digits = 0 then none
      else if c = '_' then unicodeDigits digits value rest
      else if c = '\x7d' then (scalar value).map (·, rest)
      else none

/-- A Unicode escape after its `u`. -/
def unicodeEscape : List Char → Option (Char × List Char)
  | '\x7b' :: rest => unicodeDigits 0 0 rest
  | _ => none

/-- An escape for one character, after the backslash. -/
def charEscape (form : StringForm) : List Char → Option (Char × List Char)
  | 'n' :: rest => some ('\n', rest)
  | 'r' :: rest => some ('\r', rest)
  | 't' :: rest => some ('\t', rest)
  | '\\' :: rest => some ('\\', rest)
  | '\'' :: rest => some ('\'', rest)
  | '"' :: rest => some ('"', rest)
  | '0' :: rest => if form = .terminated then none else some ('\x00', rest)
  | 'x' :: a :: b :: rest => do
    let code := (← hexDigit? a) * 16 + (← hexDigit? b)
    let allowed : Bool := match form with
      | .text => code < 0x80
      | .bytes => true
      | .terminated => code != 0
    if allowed then some (Char.ofNat code, rest) else none
  | 'u' :: rest =>
    match form with
    | .bytes => none
    | .text => unicodeEscape rest
    | .terminated => do
      let (c, rest) ← unicodeEscape rest
      if c = '\x00' then none else some (c, rest)
  | _ => none

/-- Skips the blanks after a line break that a backslash hides. A carriage return among them has to
be part of a line break. -/
def skipContinuation : List Char → Option (List Char)
  | [] => none
  | '\r' :: '\n' :: rest => skipContinuation rest
  | '\r' :: _ => none
  | c :: rest => if isBlank c then skipContinuation rest else some (c :: rest)

/-- The text after the opening quote of a string, with the characters after the closing quote. -/
def stringBody (form : StringForm) : Nat → List Char → Option (List Char × List Char)
  | 0, _ => none
  | fuel + 1, cs =>
    match cs with
    | [] => none
    | '"' :: rest => some ([], rest)
    | '\r' :: '\n' :: rest => do
      let (value, after) ← stringBody form fuel rest
      some ('\n' :: value, after)
    | '\r' :: _ => none
    | '\\' :: '\n' :: rest => (skipContinuation rest).bind (stringBody form fuel)
    | '\\' :: '\r' :: '\n' :: rest => (skipContinuation rest).bind (stringBody form fuel)
    | '\\' :: rest => do
      let (c, rest) ← charEscape form rest
      let (value, after) ← stringBody form fuel rest
      some (c :: value, after)
    | c :: rest =>
      if form.admits c then do
        let (value, after) ← stringBody form fuel rest
        some (c :: value, after)
      else none

/-- Takes `marks` number signs from the start of a text. -/
def takeHashes : (marks : Nat) → List Char → Option (List Char)
  | 0, cs => some cs
  | n + 1, '#' :: rest => takeHashes n rest
  | _ + 1, _ => none

/-- The text of a raw string after its opening quote; `marks` number signs close it. -/
def rawBody (form : StringForm) (marks : Nat) : List Char → Option (List Char × List Char)
  | [] => none
  | '"' :: rest =>
    match takeHashes marks rest with
    | some after => some ([], after)
    | none => (rawBody form marks rest).map fun (value, after) => ('"' :: value, after)
  | '\r' :: '\n' :: rest =>
    (rawBody form marks rest).map fun (value, after) => ('\r' :: '\n' :: value, after)
  | '\r' :: _ => none
  | c :: rest =>
    if form.admits c then
      (rawBody form marks rest).map fun (value, after) => (c :: value, after)
    else none

/-- A raw string after the letter that introduces it. -/
def rawString (form : StringForm) (cs : List Char) : Option (List Char × List Char) :=
  let marks := (cs.takeWhile (· == '#')).length
  match cs.dropWhile (· == '#') with
  | '"' :: rest => if marks > 255 then none else rawBody form marks rest
  | _ => none

/-- The characters after the suffix that a literal may carry. -/
def afterSuffix (cs : List Char) : List Char :=
  match plainIdent cs with
  | some (_, rest) => rest
  | none => cs

/-- A string of any form. -/
def stringLiteral (cs : List Char) : Option (Literal × List Char) :=
  let close (form : StringForm) : Option (List Char × List Char) → Option (Literal × List Char)
    | some (value, rest) =>
      some (if form = .text then .text (String.ofList value) else .other, afterSuffix rest)
    | none => none
  match cs with
  | '"' :: rest => close .text (stringBody .text (rest.length + 1) rest)
  | 'r' :: rest => close .text (rawString .text rest)
  | 'b' :: '"' :: rest => close .bytes (stringBody .bytes (rest.length + 1) rest)
  | 'b' :: 'r' :: rest => close .bytes (rawString .bytes rest)
  | 'c' :: '"' :: rest => close .terminated (stringBody .terminated (rest.length + 1) rest)
  | 'c' :: 'r' :: rest => close .terminated (rawString .terminated rest)
  | _ => none

/-- A character or byte, after its opening apostrophe. -/
def charBody (form : StringForm) (cs : List Char) : Option (Literal × List Char) := do
  let rest ← match cs with
    | '\\' :: rest => (charEscape form rest).map (·.2)
    | c :: rest => if form.admits c then some rest else none
    | [] => none
  match rest with
  | '\'' :: after => some (.other, afterSuffix after)
  | _ => none

/-- A character or a byte. -/
def charLiteral : List Char → Option (Literal × List Char)
  | 'b' :: '\'' :: rest => charBody .bytes rest
  | '\'' :: rest => charBody .text rest
  | _ => none

/-- The digits of a number up to its exponent: how many dots there were, and what follows. A dot
counts only if neither a second dot nor a name follows it. -/
def mantissa (dotted : Bool) : List Char → Option (Bool × List Char)
  | [] => some (dotted, [])
  | '.' :: rest =>
    if dotted then some (true, '.' :: rest)
    else
      match rest with
      | c :: _ => if c == '.' || isIdentStart c then none else mantissa true rest
      | [] => some (true, [])
  | c :: rest => if c.isDigit || c == '_' then mantissa dotted rest else some (dotted, c :: rest)

/-- The exponent of a number after its letter; nothing if it has no digits or two signs. -/
def exponent (signed valued : Bool) : List Char → Option (List Char)
  | [] => if valued then some [] else none
  | c :: rest =>
    if c == '+' || c == '-' then
      if valued then some (c :: rest) else if signed then none else exponent true false rest
    else if c.isDigit then exponent signed true rest
    else if c == '_' then exponent signed valued rest
    else if valued then some (c :: rest)
    else none

/-- The characters after the digits of a floating point number. -/
def afterFloatDigits (cs : List Char) : Option (List Char) :=
  match cs with
  | c :: rest =>
    if c.isDigit then do
      let (dotted, rest) ← mantissa false rest
      match rest with
      | e :: after =>
        if e == 'e' || e == 'E' then
          match exponent false false after with
          | some rest => some rest
          | none => if dotted then some (e :: after) else none
        else if dotted then some rest else none
      | [] => if dotted then some [] else none
    else none
  | [] => none

/-- A number ends where no further character of a name follows. -/
def wordBreak : List Char → Bool
  | c :: _ => !isIdentContinue c
  | [] => true

/-- A floating point number. -/
def floatLiteral (cs : List Char) : Option (Literal × List Char) := do
  let rest := afterSuffix (← afterFloatDigits cs)
  if wordBreak rest then
    some (.float (String.ofList (cs.take (cs.length - rest.length))), rest)
  else none

/-- The digits of an integer in a base, with their value; `seen` tells that a digit came before. A
decimal digit too large for the base makes the number invalid, a letter too large ends it. -/
def digits (base : Nat) (value : Nat) (seen : Bool) : List Char → Option (Nat × List Char)
  | [] => if seen then some (value, []) else none
  | c :: rest =>
    if c == '_' then
      if !seen && base == 10 then none else digits base value seen rest
    else
      match hexDigit? c with
      | some d =>
        if d < base then digits base (value * base + d) true rest
        else if c.isDigit then none
        else if seen then some (value, c :: rest) else none
      | none => if seen then some (value, c :: rest) else none

/-- An integer. -/
def integerLiteral (cs : List Char) : Option (Literal × List Char) := do
  let (value, rest) ← match cs with
    | '0' :: 'x' :: rest => digits 16 0 false rest
    | '0' :: 'o' :: rest => digits 8 0 false rest
    | '0' :: 'b' :: rest => digits 2 0 false rest
    | _ => digits 10 0 false cs
  let after := afterSuffix rest
  if wordBreak after then
    some (.integer value (String.ofList (rest.take (rest.length - after.length))), after)
  else none

/-- A literal of any kind. -/
def literal (cs : List Char) : Option (Literal × List Char) :=
  stringLiteral cs <|> charLiteral cs <|> floatLiteral cs <|> integerLiteral cs

end ContentModels.Source.Lexer
