import ContentModels.Compile.Basic
import ContentModels.Json.Typed
import ContentModels.Text.Split

/-!
# Messages of the compiler

The compiler writes a message on each line, as a JSON document; lines that are none are skipped. A
message is about the primary one of its spans, or else about the first one. Errors that are about no
file only count if there are no others, and warnings that are about no file do not count.

## Main definitions

* `CompilerMessage` — what is written on a line.
* `Findings.ofOutput` — the errors and warnings in what the compiler wrote.
-/

namespace ContentModels

open Json

/-- A part of a file that a message is about. -/
structure CompilerSpan where
  fileName : String := ""
  line : Nat := 0
  column : Nat := 0
  primary : Bool := false

/-- A message of the compiler. -/
structure CompilerMessage where
  message : String := ""
  level : String := ""
  spans : List CompilerSpan := []

def CompilerSpan.record : Record CompilerSpan where
  name := "RustcSpan"
  initial := {}
  fields := [
    { name := "file_name", required := true
      read := fun s => return { s with fileName := ← Reader.text } },
    { name := "line_start", required := true
      read := fun s => return { s with line := ← Reader.natural } },
    { name := "column_start", required := true
      read := fun s => return { s with column := ← Reader.natural } },
    { name := "is_primary", read := fun s => return { s with primary := ← Reader.bool } }]

def CompilerMessage.record : Record CompilerMessage where
  name := "RustcMessage"
  initial := {}
  fields := [
    { name := "message", required := true
      read := fun m => return { m with message := ← Reader.text } },
    { name := "level", required := true
      read := fun m => return { m with level := ← Reader.text } },
    { name := "spans"
      read := fun m => return { m with spans := ← Reader.list CompilerSpan.record.read } }]

namespace CompilerMessage

/-- Reads a line, if it is a message. -/
def ofLine? (line : List Char) : Option CompilerMessage :=
  (Reader.run record.read (String.ofList line)).toOption

/-- The span that a message is about. -/
def span? (m : CompilerMessage) : Option CompilerSpan :=
  (m.spans.find? (·.primary)).or m.spans.head?

/-- What a message says, about the file that was compiled under the name that the message gives. -/
def diagnostic (m : CompilerMessage) (originals : List (String × Path)) : CompilerDiagnostic :=
  match m.span? with
  | some span =>
    let file : Path := ⟨span.fileName⟩
    let original := file.fileName?.bind fun name => originals.lookup name
    ⟨some (original.getD file), span.line, span.column, m.message⟩
  | none => { message := m.message }

def isError (m : CompilerMessage) : Bool := "error".toList.isPrefixOf m.level.toList

def isWarning (m : CompilerMessage) : Bool := m.level == "warning"

end CompilerMessage

/-- The errors and warnings of the compiler. -/
structure Findings where
  errors : List CompilerDiagnostic := []
  warnings : List CompilerDiagnostic := []
  deriving DecidableEq

/-- The errors and warnings in what the compiler wrote about files of some names. -/
def Findings.ofOutput (output : String) (originals : List (String × Path)) : Findings :=
  let messages := (Text.lines output.toList).filterMap CompilerMessage.ofLine?
  let errors := (messages.filter (·.isError)).map (·.diagnostic originals)
  let located := errors.filter (·.file.isSome)
  let warnings := (messages.filter (·.isWarning)).map (·.diagnostic originals)
  { errors := if located.isEmpty then errors else located
    warnings := warnings.filter (·.file.isSome) }

end ContentModels
