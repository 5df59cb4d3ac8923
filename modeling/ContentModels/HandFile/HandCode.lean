import ContentModels.HandFile.Contribution

/-!
# All hand-authored code

The contributions of several files put together. Sets are united; where two files name an accessor
differently, the first one counts. The imports of a file go to every model it speaks of, except
those that bring the name of the model itself into scope.

## Main definitions

* `HandCode` — what all files say.
* `HandCode.ofContributions` — puts contributions together.
* `HandCode.ofFiles` — reads files.
-/

namespace ContentModels

/-- What all hand-authored files say together. -/
structure HandCode where
  /-- The files that could be read, in order. -/
  files : List Path := []
  models : SortedMap String Customisation := ∅
  ignoredTypes : SortedSet String := ∅

instance : Inhabited HandCode := ⟨{}⟩

/-- The imports of a list that a model takes over. -/
def importsFor (model : String) (imports : List Import) : List String :=
  (imports.filter fun i => !i.names.contains model).map (·.path)

/-- Adds what one file says of a model, with the imports of that file. -/
def Customisation.merge (m : Customisation) (model : String) (c : Customisation)
    (imports : List Import) : Customisation where
  members := SortedSet.union m.members c.members
  ignored := SortedSet.union m.ignored c.ignored
  renamed := c.renamed.entries.foldl (fun r e => r.insertIfNew e.1 e.2) m.renamed
  declaresType := m.declaresType || c.declaresType
  uses := SortedSet.addAll (SortedSet.union m.uses c.uses) (importsFor model imports)

namespace HandCode

/-- Adds what one file says. -/
def add (code : HandCode) (c : Contribution) : HandCode where
  files := code.files ++ [c.path]
  ignoredTypes := SortedSet.union code.ignoredTypes c.ignoredTypes
  models := c.models.entries.foldl
    (fun models e => models.modify e.1 fun m => m.merge e.1 e.2 c.imports) code.models

/-- What several files say together. -/
def ofContributions (l : List Contribution) : HandCode := l.foldl add {}

/-- Reads files; what is wrong with them is collected in their order. -/
def read (files : List SourceFile) : List Contribution × List HandFileError :=
  files.foldr
    (fun file (contributions, errors) =>
      match file.read with
      | .ok (c, more) => (c :: contributions, more ++ errors)
      | .error e => (contributions, e :: errors))
    ([], [])

/-- What files say together, with what is wrong with them. -/
def ofFiles (files : List SourceFile) : HandCode × List HandFileError :=
  let (contributions, errors) := read files
  (ofContributions contributions, errors)

/-! ## Questions -/

/-- What is said of a model. -/
def model? (code : HandCode) (name : String) : Option Customisation := code.models.get? name

/-- Whether a member of a model is written by hand. -/
def isDeclared (code : HandCode) (model member : String) : Bool :=
  (code.model? model).any fun m => m.members.contains member

/-- Whether a property is to be left out. -/
def isPropertyIgnored (code : HandCode) (model handle : String) : Bool :=
  (code.model? model).any fun m => m.ignored.contains handle

/-- The name chosen by hand for the accessor of a property. -/
def renamed? (code : HandCode) (model handle : String) : Option String := do
  (← code.model? model).renamed.get? handle

/-- Whether the type of a model is written by hand. -/
def implementsType (code : HandCode) (model : String) : Bool :=
  (code.model? model).any (·.declaresType)

/-- Whether a handle matches a pattern. A pattern that ends in a star matches every handle that
starts like it. -/
def matchesPattern (handle pattern : List Char) : Bool :=
  match pattern.getLast? with
  | some '*' => pattern.dropLast.isPrefixOf handle
  | _ => pattern == handle

/-- Whether a content type is to be left out. -/
def isTypeIgnored (code : HandCode) (handle : String) : Bool :=
  (SortedSet.toList code.ignoredTypes).any fun p => matchesPattern handle.toList p.toList

/-- The imports for the generated file of a model. -/
def usesFor (code : HandCode) (model : String) : SortedSet String :=
  match code.model? model with
  | some m => m.uses
  | none => ∅

end HandCode

end ContentModels
