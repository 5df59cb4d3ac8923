import ContentModels.Source.Token

/-!
# Why a source text is refused

An error has a place and a fault. Where a reader wanted more tokens than the file or the group had,
the message says so before it tells what was expected.
-/

namespace ContentModels.Source

/-- Something that the grammar allows at a place. -/
inductive Expectation where
  /-- A keyword or punctuation, as it is written. -/
  | token (written : String)
  | identifier
  | literal
  | string
  | lifetime
  | integer
  | group (delimiter : Delimiter)
  /-- Anything else, in words. -/
  | other (description : String)
  deriving DecidableEq, Repr

def Expectation.words : Expectation → String
  | .token written => "`" ++ written ++ "`"
  | .identifier => "identifier"
  | .literal => "literal"
  | .string => "string literal"
  | .lifetime => "lifetime"
  | .integer => "integer literal"
  | .group .parenthesis => "parentheses"
  | .group .bracket => "square brackets"
  | .group .brace => "curly braces"
  | .other description => description

/-- What is wrong at a place. -/
inductive SyntaxFault where
  /-- The text is no sequence of tokens. -/
  | notTokens
  /-- None of the allowed alternatives was found. -/
  | expected (alternatives : List Expectation)
  /-- A keyword stands where an identifier should. -/
  | keyword (word : String)
  /-- A group or the file goes on after its content ended. -/
  | leftover (inside : Option Delimiter)
  /-- A construct that is read and then refused. -/
  | refused (reason : String)
  /-- A part of the text is nested deeper than the text is long. -/
  | tooDeep
  deriving DecidableEq, Repr

/-- A refused source text. -/
structure SyntaxError where
  fault : SyntaxFault
  /-- Whether the group, or the file, had no further token. -/
  atEnd : Bool
  pos : Position
  deriving DecidableEq, Repr

/-- What a fault is, on its own. -/
def SyntaxFault.message : SyntaxFault → String
  | .notTokens => "cannot parse string into token stream"
  | .expected [] => "unexpected token"
  | .expected [a] => "expected " ++ a.words
  | .expected [a, b] => "expected " ++ a.words ++ " or " ++ b.words
  | .expected many => "expected one of: " ++ ", ".intercalate (many.map Expectation.words)
  | .keyword word => "expected identifier, found keyword `" ++ word ++ "`"
  | .leftover none => "unexpected token"
  | .leftover (some d) => "unexpected token, expected `" ++ d.closing.toString ++ "`"
  | .refused reason => reason
  | .tooDeep => "nested too deeply"

/-- The message of an error. -/
def SyntaxError.message (e : SyntaxError) : String :=
  if e.atEnd then
    if e.fault = .expected [] then "unexpected end of input"
    else "unexpected end of input, " ++ e.fault.message
  else e.fault.message

end ContentModels.Source
