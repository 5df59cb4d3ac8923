import ContentModels.Path
import ContentModels.Sorted.Map

/-!
# What the compiler of artifacts is asked for, and what it reports
-/

namespace ContentModels

/-- A message of the compiler; line and column are zero if they are not known. -/
structure CompilerDiagnostic where
  /-- The file that it is about. -/
  file : Option Path := none
  line : Nat := 0
  column : Nat := 0
  message : String := ""
  deriving DecidableEq, Repr

def CompilerDiagnostic.text (d : CompilerDiagnostic) : String :=
  match d.file with
  | some file => s!"{file}:{d.line}:{d.column}: {d.message}"
  | none => d.message

/-- Why there is no artifact. -/
inductive CompileError where
  /-- The code was refused. -/
  | failed (diagnostics : List CompilerDiagnostic)
  /-- The compiler could not do its work. -/
  | environment (path : Path) (reason : String)
  deriving DecidableEq, Repr

/-- Messages with their numbers, from `n` on. -/
def numbered (n : Nat) : List CompilerDiagnostic → List String
  | [] => []
  | d :: rest => s!"  {n}. {d.text}" :: numbered (n + 1) rest

def CompileError.message : CompileError → String
  | failed diagnostics =>
    s!"Compilation failed with {diagnostics.length} error(s):\n" ++
      "\n".intercalate (numbered 1 diagnostics)
  | environment path reason => s!"Compilation environment error at {path}: {reason}"

/-- An artifact that was compiled. -/
structure Artifact where
  path : Path
  warnings : List CompilerDiagnostic := []
  deriving DecidableEq, Repr

/-- Files to be compiled into an artifact. -/
structure CompileRequest where
  /-- The namespace, which names the artifact for its users. -/
  space : String
  /-- The texts of the files; the index is one of them. -/
  files : SortedMap Path String
  /-- Where the artifact goes. -/
  output : Path
  deriving DecidableEq

end ContentModels
