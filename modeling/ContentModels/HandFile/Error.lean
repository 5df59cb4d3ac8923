import ContentModels.Path
import ContentModels.Source.SyntaxError

/-!
# What is wrong with a hand-authored file

A file that is no source text contributes nothing; a malformed marker is dropped alone.
-/

namespace ContentModels

/-- Why a hand-authored file, or a marker in it, was left out. -/
inductive HandFileError where
  /-- The file is no source text. -/
  | unreadable (file : Path) (pos : Source.Position) (reason : String)
  /-- A marker is malformed. -/
  | marker (file : Path) (line : Nat) (reason : String)
  deriving DecidableEq, Repr

namespace HandFileError

def file : HandFileError → Path
  | unreadable file _ _ => file
  | marker file _ _ => file

def message : HandFileError → String
  | unreadable file pos reason =>
    s!"Syntax error in {file}:{pos.line}:{pos.column}: {reason}"
  | marker file line reason => s!"Invalid marker in {file}:{line}: {reason}"

end HandFileError

end ContentModels
