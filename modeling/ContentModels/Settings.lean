import ContentModels.Mode
import ContentModels.Naming
import ContentModels.Path
import ContentModels.Rendering.Index

/-!
# Settings of a run
-/

namespace ContentModels

/-- Where and how models are generated. -/
structure Settings where
  /-- The directory of hand-authored and generated files. -/
  modelsDir : Path
  /-- The namespace of the models. -/
  space : String
  mode : Mode := .sourceOnly
  /-- The directory of the artifact, unless it is the one below the models. -/
  artifactDir : Option Path := none
  deriving DecidableEq, Repr

namespace Settings

/-- The name of the directory below the models that the artifact goes to. -/
def artifactDirName : String := ".modelgen"

/-- Where the artifact goes. -/
def artifactPath (s : Settings) : Path :=
  (s.artifactDir.getD (s.modelsDir.file artifactDirName)).file (Naming.artifactFileName s.space)

/-- Where the index goes. -/
def indexPath (s : Settings) : Path := s.modelsDir.file Rendering.indexFileName

/-- Where the generated file of a model goes. -/
def modelPath (s : Settings) (className : String) : Path :=
  s.modelsDir.file (Naming.generatedFileName className)

end Settings

/-- Whether a path names a generated file. -/
def Path.isGenerated (p : Path) : Bool :=
  p.fileName?.any fun name => Naming.generatedSuffix.toList.isSuffixOf name.toList

end ContentModels
