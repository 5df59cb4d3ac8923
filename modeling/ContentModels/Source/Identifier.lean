import ContentModels.Text.NameTable

/-!
# Identifiers of source text

Source files may use identifiers outside ASCII. This module says which characters form one, and
which words are keywords that cannot stand where an identifier is expected.
-/

namespace ContentModels.Source

open Text

/-- Whether a character may open an identifier. -/
def isIdentStart (c : Char) : Bool :=
  if c.toNat < 0x80 then c.isAlpha || c == '_' else xidStart.has c.toNat

/-- Whether a character may follow in an identifier. -/
def isIdentContinue (c : Char) : Bool :=
  if c.toNat < 0x80 then c.isAlphanum || c == '_' else xidContinue.has c.toNat

/-- Words of the grammar, and the underscore, which stand for no identifier. -/
def reservedWords : List String := [
  "_", "abstract", "as", "async", "await", "become", "box", "break", "const", "continue", "crate",
  "do", "dyn", "else", "enum", "extern", "false", "final", "fn", "for", "if", "impl", "in", "let",
  "loop", "macro", "match", "mod", "move", "mut", "override", "priv", "pub", "ref", "return",
  "Self", "self", "static", "struct", "super", "trait", "true", "try", "type", "typeof", "unsafe",
  "unsized", "use", "virtual", "where", "while", "yield"]

/-- Whether a word can be used as an identifier. -/
def isUsableIdent (word : String) : Bool := !reservedWords.contains word

/-- Words that cannot be made identifiers by writing `r#` before them. -/
def neverRaw : List String := ["_", "super", "self", "Self", "crate"]

/-- The identifier at the start of a text, without regard to a raw prefix. -/
def plainIdent (cs : List Char) : Option (List Char × List Char) :=
  match cs with
  | [] => none
  | c :: rest =>
    if isIdentStart c then
      some (c :: rest.takeWhile isIdentContinue, rest.dropWhile isIdentContinue)
    else none

/-- The identifier at the start of a text, with `r#` if it is raw. -/
def anyIdent (cs : List Char) : Option (List Char × List Char) :=
  match cs with
  | 'r' :: '#' :: rest =>
    match plainIdent rest with
    | some (name, after) =>
      if neverRaw.contains (String.ofList name) then none else some ('r' :: '#' :: name, after)
    | none => none
  | _ => plainIdent cs

end ContentModels.Source
