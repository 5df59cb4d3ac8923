import ContentModels.Proofs.Naming.FileNames
import ContentModels.Store.Memory

/-!
# Generated files in memory

A listing of generated files goes by the ending of the whole path, and the question whether a file
is generated by that of its name. Both agree on the files that runs generate.

## Main definitions

* `MemoryStore.isGeneratedChild` — whether a listing of the generated files of a directory finds a
  file.
* `MemoryStore.isGeneratedIn` — whether a file is one of them by its name.

## Main statements

* `MemoryStore.isGeneratedChild_file` — the next listing finds what a run generates.
* `MemoryStore.isGenerated_of_isGeneratedChild` — what a listing finds is generated by its name.
-/

namespace ContentModels

theorem Path.isGenerated_iff {p : Path} : p.isGenerated = true ↔
    ∃ name, p.fileName? = some name ∧ Naming.generatedSuffix.toList <:+ name.toList := by
  cases h : p.fileName? <;> simp [Path.isGenerated, h]

/-- It does not matter how a path is spelled. -/
theorem Path.isGenerated_congr {p q : Path} (h : compare p q = .eq) :
    p.isGenerated = q.isGenerated := by
  rw [isGenerated, isGenerated, fileName?, fileName?, compare_eq_iff.1 h]

namespace MemoryStore

/-- Whether a listing of the generated files of a directory finds a file. -/
def isGeneratedChild (dir file : Path) : Bool :=
  isChild dir file && (ending generatedPattern).isSuffixOf file.chars

/-- Whether a file of a directory is generated by its name. -/
def isGeneratedIn (dir file : Path) : Bool := isChild dir file && file.isGenerated

variable {dir file : Path}

theorem list_generatedPattern (s : MemoryStore) (dir : Path) :
    s.list dir generatedPattern = s.files.keys.filter (isGeneratedChild dir) := rfl

theorem ending_generatedPattern : ending generatedPattern = Naming.generatedSuffix.toList := by
  decide

theorem isGeneratedChild_iff : isGeneratedChild dir file = true ↔
    isChild dir file = true ∧ Naming.generatedSuffix.toList <:+ file.chars := by
  rw [isGeneratedChild, Bool.and_eq_true, List.isSuffixOf_iff_suffix, ending_generatedPattern]

/-- A file of a directory lies in it. -/
theorem isChild_file (dir : Path) {name : String} (h : Path.IsName name) :
    isChild dir (dir.file name) = true := by
  obtain ⟨parent, hparent, hsame⟩ := dir.exists_parent_file h
  simp [isChild, hparent, Path.same, hsame]

/-- It does not matter how a file is spelled. -/
theorem isChild_congr {p q : Path} (h : compare p q = .eq) : isChild dir p = isChild dir q := by
  have hcomponents := Path.compare_eq_iff.1 h
  have hnone : p.parent? = none ↔ q.parent? = none := by
    rw [Path.parent?_eq_none_iff, Path.parent?_eq_none_iff, hcomponents]
  unfold isChild
  cases hp : p.parent? with
  | none => rw [hnone.1 hp]
  | some p' =>
    cases hq : q.parent? with
    | none => simp [hnone.2 hq] at hp
    | some q' =>
      have hsame : p'.components = q'.components := by
        rw [Path.components_of_parent? hp, Path.components_of_parent? hq, hcomponents]
      simp [Path.same, hsame]

/-- What a listing finds is generated by its name. -/
theorem isGenerated_of_isGeneratedChild (h : isGeneratedChild dir file = true) :
    file.isGenerated = true := by
  obtain ⟨-, hending⟩ := isGeneratedChild_iff.1 h
  exact Path.isGenerated_iff.2 (Path.exists_fileName_of_suffix hending (by decide) (by decide))

theorem isGenerated_file (dir : Path) {name : String} (h : IsGeneratedName name) :
    (dir.file name).isGenerated = true :=
  Path.isGenerated_iff.2 ⟨name, dir.fileName?_file h.toIsName, h.ending⟩

/-- The next listing finds what a run generates. -/
theorem isGeneratedChild_file (dir : Path) {name : String} (h : IsGeneratedName name) :
    isGeneratedChild dir (dir.file name) = true := by
  refine isGeneratedChild_iff.2 ⟨isChild_file dir h.toIsName, h.ending.trans ?_⟩
  exact dir.suffix_file name

theorem isGeneratedIn_of_isGeneratedChild (h : isGeneratedChild dir file = true) :
    isGeneratedIn dir file = true := by
  rw [isGeneratedIn, (isGeneratedChild_iff.1 h).1, isGenerated_of_isGeneratedChild h]
  rfl

/-- A generated file of a directory has the components of the directory, and then its name. -/
theorem isGeneratedIn_iff : isGeneratedIn dir file = true ↔
    ∃ name, file.components = dir.components ++ [Component.name name] ∧
      Naming.generatedSuffix.toList <:+ name.toList := by
  rw [isGeneratedIn, Bool.and_eq_true, Path.isGenerated_iff]
  constructor
  · rintro ⟨hchild, name, hname, hending⟩
    refine ⟨name, ?_, hending⟩
    obtain ⟨init, hinit⟩ : ∃ init, file.components = init ++ [.name name] := by
      rw [Path.fileName?] at hname
      split at hname
      · next text hlast =>
        obtain rfl := Option.some.inj hname
        exact List.getLast?_eq_some_iff.1 hlast
      · cases hname
    obtain ⟨parent, hparent, hinit'⟩ := Path.exists_parent?_of_concat hinit
    have hsame : parent.components = dir.components := by
      simpa [isChild, hparent, Path.same] using hchild
    rw [hinit, ← hinit', hsame]
  · rintro ⟨name, hcomponents, hending⟩
    obtain ⟨parent, hparent, hsame⟩ := Path.exists_parent?_of_concat hcomponents
    refine ⟨?_, name, ?_, hending⟩
    · simp [isChild, hparent, Path.same, hsame]
    · simp [Path.fileName?, hcomponents]

/-- It does not matter how a file is spelled. -/
theorem isGeneratedIn_congr {p q : Path} (h : compare p q = .eq) :
    isGeneratedIn dir p = isGeneratedIn dir q := by
  rw [Bool.eq_iff_iff, isGeneratedIn_iff, isGeneratedIn_iff, Path.compare_eq_iff.1 h]

end MemoryStore

end ContentModels
