import ContentModels.HandFile.HandCode
import ContentModels.Proofs.Sorted.Map
import Mathlib.Data.List.Induction

/-!
# What several files say together

The answers of hand-authored code to the questions of the planner, put together from those of its
files. Each file adds to what was said before it what it says on its own.

## Main definitions

* `Contribution.declares` — whether a file declares a member.

## Main statements

* `HandCode.model?_add` — what is said of a model after one more file.
* `HandCode.isDeclared_add`, `HandCode.isPropertyIgnored_add`, `HandCode.renamed?_add`,
  `HandCode.implementsType_add`, `HandCode.isTypeIgnored_add`, `HandCode.usesFor_add` — the answers
  after one more file.
* `HandCode.isDeclared_ofContributions` — the answer for all files.
-/

namespace ContentModels

/-- Whether a file declares a member of a model. -/
def Contribution.declares (c : Contribution) (model member : String) : Bool :=
  (c.models.get? model).any fun said => said.members.contains member

namespace HandCode

/-! ## Files that are read -/

theorem read_cons (file : SourceFile) (l : List SourceFile) : read (file :: l) =
    match file.read with
    | .ok (c, more) => (c :: (read l).1, more ++ (read l).2)
    | .error e => ((read l).1, e :: (read l).2) := rfl

theorem read_append (l m : List SourceFile) :
    read (l ++ m) = ((read l).1 ++ (read m).1, (read l).2 ++ (read m).2) := by
  induction l with
  | nil => rfl
  | cons file rest ih =>
    rw [List.cons_append, read_cons, read_cons, ih]
    cases file.read <;> simp

/-- What one file says. -/
theorem ofFiles_singleton {file : SourceFile} {c : Contribution} {errors : List HandFileError}
    (h : file.read = .ok (c, errors)) : (ofFiles [file]).1 = ofContributions [c] := by
  rw [ofFiles, read_cons, h]
  rfl

/-! ## One more file -/

variable (code : HandCode) (c : Contribution) (model : String)

/-- What is said of a model after one more file: what the file says is merged into it. -/
theorem model?_add : (code.add c).model? model =
    match c.models.get? model with
    | some said => some (((code.model? model).getD default).merge model said c.imports)
    | none => code.model? model := by
  have hmerge (a b : String) (h : compare a b = .eq) :
      (fun said (m : Option Customisation) => (m.getD default).merge a said c.imports) =
        fun said m => (m.getD default).merge b said c.imports := by
    rw [Std.LawfulEqCmp.compare_eq_iff_eq.1 h]
  refine (SortedMap.get?_foldl_alter c.models.inOrder hmerge code.models model).trans ?_
  change Option.elim (c.models.get? model) _ _ = _
  cases c.models.get? model <;> rfl

theorem model?_empty_add : (add {} c).model? model =
    (c.models.get? model).map fun said => (default : Customisation).merge model said c.imports := by
  rw [model?_add]
  cases c.models.get? model <;> rfl

theorem isDeclared_add (member : String) : (code.add c).isDeclared model member =
    (code.isDeclared model member || (add {} c).isDeclared model member) := by
  rw [isDeclared, isDeclared, isDeclared, model?_add, model?_empty_add]
  cases c.models.get? model <;> cases code.model? model <;> simp [Customisation.merge, default]

/-- A member is written by hand if any file declares it. -/
theorem isDeclared_ofContributions (l : List Contribution) (model member : String) :
    (ofContributions l).isDeclared model member = l.any (·.declares model member) := by
  have hone (c : Contribution) : (add {} c).isDeclared model member = c.declares model member := by
    rw [isDeclared, model?_empty_add, Contribution.declares]
    cases c.models.get? model <;> simp [Customisation.merge, default]
  induction l using List.reverseRecOn with
  | nil => rfl
  | append_singleton l c ih =>
    rw [ofContributions, List.foldl_append, List.foldl_cons, List.foldl_nil, isDeclared_add, hone,
      List.any_append, ← ih]
    simp [ofContributions]

theorem isPropertyIgnored_add (handle : String) : (code.add c).isPropertyIgnored model handle =
    (code.isPropertyIgnored model handle || (add {} c).isPropertyIgnored model handle) := by
  rw [isPropertyIgnored, isPropertyIgnored, isPropertyIgnored, model?_add, model?_empty_add]
  cases c.models.get? model <;> cases code.model? model <;> simp [Customisation.merge, default]

theorem implementsType_add : (code.add c).implementsType model =
    (code.implementsType model || (add {} c).implementsType model) := by
  rw [implementsType, implementsType, implementsType, model?_add, model?_empty_add]
  cases c.models.get? model <;> cases code.model? model <;> simp [Customisation.merge, default]

/-- The names that a file gives to accessors count where no earlier file gives one. -/
theorem get?_renamed_merge (m said : Customisation) (imports : List Import) (handle : String) :
    (m.merge model said imports).renamed.get? handle =
      (m.renamed.get? handle).or (said.renamed.get? handle) := by
  refine (SortedMap.get?_foldl_alter said.renamed.inOrder (f := fun _ name old => old.getD name)
    (fun _ _ _ => rfl) m.renamed handle).trans ?_
  change Option.elim (said.renamed.get? handle) _ _ = _
  cases said.renamed.get? handle <;> cases m.renamed.get? handle <;> rfl

/-- The first file that names an accessor counts. -/
theorem renamed?_add (handle : String) : (code.add c).renamed? model handle =
    (code.renamed? model handle).or ((add {} c).renamed? model handle) := by
  rw [renamed?, renamed?, renamed?, model?_add, model?_empty_add]
  cases c.models.get? model <;> cases code.model? model <;> simp [get?_renamed_merge, default]

theorem isTypeIgnored_add (handle : String) : (code.add c).isTypeIgnored handle =
    (code.isTypeIgnored handle || (add {} c).isTypeIgnored handle) := by
  rw [Bool.eq_iff_iff, Bool.or_eq_true]
  simp only [isTypeIgnored, List.any_eq_true, add, SortedSet.mem_toList, SortedSet.contains_union,
    SortedSet.contains_empty, Bool.false_or, Bool.or_eq_true, or_and_right, exists_or]

theorem usesFor_add : (code.add c).usesFor model =
    SortedSet.union (code.usesFor model) ((add {} c).usesFor model) := by
  refine SortedSet.ext_contains fun path => ?_
  rw [SortedSet.contains_union, usesFor, usesFor, usesFor, model?_add, model?_empty_add]
  cases c.models.get? model <;> cases code.model? model <;>
    simp [Customisation.merge, default, Bool.or_assoc]

end HandCode

end ContentModels
