import ContentModels.FileTree.Walk
import ContentModels.Glob.Pattern

/-!
# Files that match a pattern

A search follows the steps of a path, of which those of the pattern may match several names. The
names of the directory that a search starts in are taken as they are.

## Main definitions

* `Glob.search` — the files that steps lead to.
* `Glob.list` — the files below a directory that match a pattern, in order.
-/

namespace ContentModels.Glob

open Text

variable (t : FileTree)

/-- Whether a path leads to where relative paths start. -/
def isHere (p : Path) : Bool := p.same ⟨"."⟩

/-- The path of a name below another path, which is left out if it says nothing. -/
def below (p : Path) (name : String) : Path := if isHere p then ⟨name⟩ else p.file name

/-- The names in a directory, in order. -/
def namesIn (p : Path) : List String :=
  match t.find p with
  | .ok (.node l .dir) => t.names l
  | _ => []

/-- Those of the names for a directory itself and for the one above it that match a step. Only a
step that starts with a dot matches them. -/
def dotNames (step : List Token) : List String :=
  if step.head? = some (.char '.') then
    ["..", "."].filter fun name => matchesName step name.toList
  else []

/-- Whether a step stands for directories of any depth. -/
def isDeep (step : List Token) : Bool := step.contains .anyDepth

/-- Whether a path is worth following: dots lead on from every directory, a name leads where
something is. -/
def leadsOn (p : Path) (name : String) : Bool :=
  if name = "." ∨ name = ".." then t.isDir p else t.exists? (below p name)

theorem length_dropWhile_le {α : Type} (q : α → Bool) (l : List α) :
    (l.dropWhile q).length ≤ l.length :=
  (List.dropWhile_sublist q).length_le

/-- The files that steps lead to from a path. Steps of any depth go down so many levels at most. -/
def search (levels depth : Nat) (steps : List (List Token)) (p : Path) : List Path :=
  match steps with
  | [] => if t.isFile p then [p] else []
  | step :: rest =>
    match literal? step with
    | some name =>
      let name := String.ofList name
      if leadsOn t p name then search levels levels rest (below p name) else []
    | none =>
      if isDeep step then
        match h : rest.dropWhile isDeep with
        | [] => []
        | next :: after =>
          have : after.length < rest.length := by
            have := length_dropWhile_le isDeep rest
            simp only [h, List.length_cons] at this
            omega
          (namesIn t p).flatMap fun name =>
            (if matchesName next name.toList then search levels levels after (below p name)
              else []) ++
            match depth with
            | 0 => []
            | depth + 1 => search levels depth (step :: next :: after) (below p name)
      else
        ((if t.isDir p then dotNames step else []).flatMap fun name =>
          search levels levels rest (p.file name)) ++
        (namesIn t p).flatMap fun name =>
          if matchesName step name.toList then search levels levels rest (below p name) else []
termination_by (steps.length, depth)
decreasing_by
  · exact .left _ _ (Nat.lt_succ_self _)
  · exact .left _ _ (by simp only [List.length_cons]; omega)
  · rcases Nat.lt_or_eq_of_le this with hlt | heq
    · exact .left _ _ (by simp only [List.length_cons]; omega)
    · simp only [List.length_cons, ← heq]
      exact .right _ (Nat.lt_succ_self _)
  · exact .left _ _ (Nat.lt_succ_self _)
  · exact .left _ _ (Nat.lt_succ_self _)

/-- The text of a path in which no character is special. -/
def escaped (cs : List Char) : List Char :=
  cs.flatMap fun c => if c ∈ ['?', '*', '[', ']'] then ['[', c, ']'] else [c]

/-- The pieces between separators. A separator at the end is followed by no piece. -/
def steps (cs : List Char) : List (List Char) :=
  match (pieces '/' cs).reverse with
  | [] :: rest => rest.reverse
  | all => all.reverse

/-- The steps of a pattern, if it is one as a whole and in each of its pieces. -/
def patternSteps (pos : Nat) (pattern : List Char) : Except PatternError (List (List Token)) := do
  let _ ← parse (some '/') pos pattern
  (steps pattern).mapM (parse none 0)

/-- The steps that lead from the start of a search to a directory. -/
def dirSteps (dir : Path) : List (List Token) :=
  (pieces '/' (if dir.isAbsolute then dir.chars.drop 1 else dir.chars)).map (·.map .char)

/-- The files below a directory that match a pattern, in order. A pattern that ends in a separator
asks for directories, and so it is matched by no file. -/
def list (dir : Path) (pattern : String) : Except StoreError (List Path) :=
  if !t.isDir dir then .ok []
  else
    let full := escaped dir.chars ++ '/' :: pattern.toList
    match patternSteps (full.length - pattern.toList.length) pattern.toList with
    | .error e => .error (.list (String.ofList full) e.message)
    | .ok steps =>
      if full.getLast? == some '/' then .ok []
      else
        let levels := t.nodes.entries.length
        let start : Path := if dir.isAbsolute then ⟨"/"⟩ else ⟨"."⟩
        .ok ((search t levels levels (dirSteps dir ++ steps) start).mergeSort fun p q =>
          (compare p q).isLE)

end ContentModels.Glob
