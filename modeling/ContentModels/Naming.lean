import ContentModels.Text.Blank
import ContentModels.Text.Words

/-!
# Names in generated code

The rules that turn the handles of content types and properties into identifiers.

## Main definitions

* `Naming.isKeyword`, `Naming.isIdentifier` — what an identifier may be.
* `Naming.className`, `Naming.explicitClassName` — model names.
* `Naming.accessorName`, `Naming.accessor` — names of accessors.
* `Naming.fileStem`, `Naming.moduleName` — names of files and modules.
* `Naming.crateName`, `Naming.artifactFileName`, `Naming.generatedFileName`.
-/

namespace ContentModels.Naming

open Text

/-- Members that every generated model defines itself. -/
def reservedMembers : List String := ["new", "content"]

/-- Words that the language keeps for itself. -/
def keywords : List String := [
  "abstract", "as", "async", "await", "become", "box", "break", "const", "continue", "crate",
  "do", "dyn", "else", "enum", "extern", "false", "final", "fn", "for", "gen", "if", "impl",
  "in", "let", "loop", "macro", "match", "mod", "move", "mut", "override", "priv", "pub", "ref",
  "return", "self", "Self", "static", "struct", "super", "trait", "true", "try", "type",
  "typeof", "union", "unsafe", "unsized", "use", "virtual", "where", "while", "yield"]

def isKeyword (name : String) : Bool := keywords.contains name

def isReserved (name : String) : Bool := reservedMembers.contains name

/-- A letter of ASCII or an underscore. -/
def isIdentifierStart (c : Char) : Bool := c == '_' || c.isAlpha

/-- A letter or digit of ASCII, or an underscore. -/
def isIdentifierChar (c : Char) : Bool := c == '_' || c.isAlphanum

/-- Whether a name can stand in generated code as it is: an identifier of ASCII that is neither a
keyword nor the lone underscore. -/
def isIdentifier (name : String) : Bool :=
  match name.toList with
  | [] => false
  | c :: rest =>
    isIdentifierStart c && rest.all isIdentifierChar && name != "_" && !isKeyword name

/-- The trimmed name with every other character replaced by an underscore. -/
def plainChars (name : String) : List Char :=
  (trimChars name.toList).map fun c => if c.isAlphanum then c else '_'

/-- Whether a text opens with a digit. -/
def opensWithDigit (cs : List Char) : Bool := cs.head?.any Char.isDigit

/-- The model name for the handle of a content type, such as `BlogPost` for `blogPost`. -/
def className (handle : String) : String :=
  let words := pascal (plainChars handle)
  if words.isEmpty then "Model"
  else
    let name := String.ofList (if opensWithDigit words then "Model".toList ++ words else words)
    if isKeyword name then name.push '_' else name

/-- The model name for a name that the schema gives. An identifier is kept as written; anything else
is built like the name for a handle. -/
def explicitClassName (name : String) : String :=
  let name := trim name
  if isIdentifier name then name else className name

/-- A name made fit to be an accessor. A leading digit gets an underscore before it; a keyword or a
reserved member gets one behind it. -/
def accessor (name : String) : String :=
  let chars := plainChars name
  if chars.isEmpty then "property_"
  else
    let ident := String.ofList (if opensWithDigit chars then '_' :: chars else chars)
    if isKeyword ident || isReserved ident || ident == "_" then ident.push '_' else ident

/-- The accessor name for the handle of a property, such as `meta_title` for `metaTitle`. -/
def accessorName (handle : String) : String :=
  accessor (String.ofList (snake (plainChars handle)))

/-- The stem of the file of a model, such as `blog_post` for `BlogPost`. -/
def fileStem (className : String) : String := String.ofList (snake className.toList)

/-- The module identifier for the stem of any file. -/
def moduleName (stem : String) : String :=
  accessor (String.ofList ((plainChars stem).map Char.toLower))

/-- The suffix that sets generated files apart. -/
def generatedSuffix : String := ".generated.rs"

/-- The file name of a model, such as `blog_post.generated.rs` for `BlogPost`. -/
def generatedFileName (className : String) : String := fileStem className ++ generatedSuffix

/-- The crate name of the artifact of a namespace. -/
def crateName (space : String) : String :=
  let name := trim space
  if name.isEmpty then "models" else moduleName name

/-- The file name of the artifact of a namespace, such as `libsite.rlib` for `site`. -/
def artifactFileName (space : String) : String := "lib" ++ crateName space ++ ".rlib"

end ContentModels.Naming
