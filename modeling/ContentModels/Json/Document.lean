import ContentModels.Json.Text

/-!
# Writing JSON documents

A document is written in one of two layouts: all on one line, or with every part of a container on a
line of its own.

## Main definitions

* `Json.Document` — what can be written.
* `Json.Document.compact`, `Json.Document.pretty` — the two layouts.
-/

namespace ContentModels.Json

/-- What can be written; the entries of an object keep their order. -/
inductive Document where
  | null
  | bool (value : Bool)
  | text (value : String)
  | array (items : List Document)
  | object (entries : List (String × Document))

namespace Document

/-- A text or nothing. -/
def ofOption : Option String → Document
  | some s => .text s
  | none => .null

/-- A list of texts. -/
def ofTexts (l : List String) : Document := .array (l.map .text)

def ofBool (b : Bool) : List Char := if b then "true".toList else "false".toList

mutual

/-- All on one line. -/
def compactChars : Document → List Char
  | .null => "null".toList
  | .bool b => ofBool b
  | .text s => writtenChars s.toList
  | .array items => '[' :: compactItems items ++ [']']
  | .object entries => '\x7b' :: compactEntries entries ++ ['\x7d']

def compactItems : List Document → List Char
  | [] => []
  | [d] => d.compactChars
  | d :: rest => d.compactChars ++ ',' :: compactItems rest

def compactEntries : List (String × Document) → List Char
  | [] => []
  | [(key, d)] => writtenChars key.toList ++ ':' :: d.compactChars
  | (key, d) :: rest =>
    writtenChars key.toList ++ ':' :: d.compactChars ++ ',' :: compactEntries rest

end

/-- A line break and the indentation of a level. -/
def newLine (level : Nat) : List Char := '\n' :: List.replicate (2 * level) ' '

mutual

/-- Every item and entry on a line of its own; an empty container stays on its line. -/
def prettyChars (level : Nat) : Document → List Char
  | .null => "null".toList
  | .bool b => ofBool b
  | .text s => writtenChars s.toList
  | .array [] => ['[', ']']
  | .array items => '[' :: prettyItems (level + 1) items ++ newLine level ++ [']']
  | .object [] => ['\x7b', '\x7d']
  | .object entries => '\x7b' :: prettyEntries (level + 1) entries ++ newLine level ++ ['\x7d']

def prettyItems (level : Nat) : List Document → List Char
  | [] => []
  | [d] => newLine level ++ d.prettyChars level
  | d :: rest => newLine level ++ d.prettyChars level ++ ',' :: prettyItems level rest

def prettyEntries (level : Nat) : List (String × Document) → List Char
  | [] => []
  | [(key, d)] => newLine level ++ writtenChars key.toList ++ ':' :: ' ' :: d.prettyChars level
  | (key, d) :: rest =>
    newLine level ++ writtenChars key.toList ++ ':' :: ' ' :: d.prettyChars level ++
      ',' :: prettyEntries level rest

end

def compact (d : Document) : String := String.ofList d.compactChars

def pretty (d : Document) : String := String.ofList (d.prettyChars 0)

end Document

end ContentModels.Json
