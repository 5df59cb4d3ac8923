import ContentModels.Text.Blank

/-!
# What a run produces
-/

namespace ContentModels

/-- What a run produces. -/
inductive Mode where
  /-- Nothing: runs are switched off. -/
  | nothing
  /-- Source files. -/
  | sourceOnly
  /-- Source files, and an artifact that is compiled from them. -/
  | artifact
  deriving DecidableEq, Repr, Inhabited

namespace Mode

def name : Mode → String
  | nothing => "nothing"
  | sourceOnly => "source-only"
  | artifact => "artifact"

def isEnabled (m : Mode) : Bool := m != .nothing

def needsArtifact (m : Mode) : Bool := m == .artifact

/-- The spellings of modes, in small letters and with dashes. -/
def spellings : List (String × Mode) := [
  ("nothing", .nothing), ("off", .nothing), ("source-only", .sourceOnly), ("source", .sourceOnly),
  ("artifact", .artifact)]

/-- A spelling in small letters and with dashes, without blanks around it. -/
def plainSpelling (s : String) : String :=
  String.ofList ((Text.trimChars s.toList).map fun c => if c = '_' then '-' else c.toLower)

/-- The mode that a text names, or the reason why it names none. -/
def parse (s : String) : Except String Mode :=
  let plain := plainSpelling s
  match spellings.lookup plain with
  | some m => .ok m
  | none => .error <|
      s!"unknown generation mode '{plain}' (expected nothing, source-only or artifact)"

end Mode

end ContentModels
