import ContentModels.FileTree.Access
import ContentModels.Json.Document
import ContentModels.Json.Typed
import ContentModels.Run.Report
import ContentModels.Status.Basic

/-!
# Statuses in files

A status can be kept in a file, as a JSON document, so that other programs see it. A file that is
not there stands for a status that remembers nothing. To change the status, a file that cannot be
read is taken for one, too; a status that cannot be written is lost.

## Main definitions

* `Status.ofJson`, `Status.toJson` — the document of a status.
* `Status.load`, `Status.save` — a status in a file.
* `Status.update` — changes the status in a file.
-/

namespace ContentModels

open Json

def Status.record : Record Status where
  name := "StatusState"
  initial := {}
  fields := [
    { name := "lastError"
      read := fun s => return { s with lastError := ← Reader.optional Reader.text } },
    { name := "outOfDate", read := fun s => return { s with outOfDate := ← Reader.bool } }]

/-- Reads a status document. -/
def Status.ofJson (document : String) : Except Json.Error Status :=
  Reader.run Status.record.read document

def Status.document (s : Status) : Document :=
  .object [("lastError", .ofOption s.lastError), ("outOfDate", .bool s.outOfDate)]

/-- Writes a status document. -/
def Status.toJson (s : Status) : String := s.document.pretty

def Dashboard.document (d : Dashboard) : Document := .object [
  ("enable", .bool d.enable), ("text", .text d.text), ("canGenerate", .bool d.canGenerate),
  ("generateCausesRestart", .bool d.causesRestart), ("outOfDateModels", .bool d.outOfDate),
  ("lastError", .ofOption d.lastError)]

namespace Status

/-- Reads the status in a file. -/
def load (t : FileTree) (file : Path) : Except IoFault Status :=
  match t.read file with
  | .ok document => (ofJson document).mapError fun e => .other e.message
  | .error .notFound => .ok {}
  | .error e => .error e

/-- Writes a status to a file, and creates the directories that it takes. -/
def save (s : Status) (t : FileTree) (file : Path) : Except IoFault Unit × FileTree :=
  let (created, t) : Except IoFault Unit × FileTree := match file.parent? with
    | some dir => if dir.chars.isEmpty then (.ok (), t) else t.createDirs dir
    | none => (.ok (), t)
  match created with
  | .error e => (.error e, t)
  | .ok () =>
    match t.write file s.toJson with
    | .ok t => (.ok (), t)
    | .error e => (.error e, t)

/-- Changes the status in a file. -/
def update (t : FileTree) (file : Path) (f : Status → Status) : FileTree :=
  let s := (load t file).toOption.getD {}
  ((f s).save t file).2

end Status

end ContentModels
