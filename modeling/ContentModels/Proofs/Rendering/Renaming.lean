import ContentModels.Proofs.Naming.Identifiers
import ContentModels.Rendering.Index
import Mathlib.Data.List.Nodup
import Mathlib.Data.List.Perm.Subperm

/-!
# Renaming modules

A hand-authored file whose module name is taken gets underscores behind it, one after the other,
until the name is free. Each name that was tried is longer than the one before, so that one of them
is not among the names that are taken.

## Main definitions

* `Renames` — the names that are tried, up to the one that is free.

## Main statements

* `renames_freeName` — the renaming comes to an end.
* `Renames.isIdentifier` — an identifier stays one.
* `handModules_spec` — the modules of hand-authored files, each next to those before it.
-/

namespace ContentModels.Rendering

open Naming

/-! ## One module -/

/-- The renaming of a module. While the name is taken, it goes on with one more underscore. -/
inductive Renames (taken : List String) : String → String → Prop
  | free {name : String} (h : name ∉ taken) : Renames taken name name
  | again {name out : String} (h : name ∈ taken) (rest : Renames taken (name.push '_') out) :
      Renames taken name out

namespace Renames

variable {taken : List String} {name out : String}

theorem notMem (h : Renames taken name out) : out ∉ taken := by
  induction h with
  | free h => exact h
  | again h rest ih => exact ih

/-- A name stays as it is unless it is taken. -/
theorem eq_of_notMem (h : Renames taken name out) (hfree : name ∉ taken) : out = name := by
  cases h with
  | free => rfl
  | again hmem => exact absurd hmem hfree

/-- An identifier stays one however often it is renamed. -/
theorem isIdentifier (h : Renames taken name out) (hname : isIdentifier name = true) :
    isIdentifier out = true := by
  induction h with
  | free => exact hname
  | again _ _ ih =>
    refine ih ?_
    rw [String.push_eq_append]
    exact isIdentifier_append_of_isIdentifier hname (by decide) (by decide)

/-- What counts is which names are taken. -/
theorem congr {taken' : List String} (h : Renames taken name out)
    (hmem : ∀ n, n ∈ taken ↔ n ∈ taken') : Renames taken' name out := by
  induction h with
  | free h => exact .free (mt (hmem _).2 h)
  | again h _ ih => exact .again ((hmem _).1 h) ih

end Renames

@[simp] theorem padded_zero (name : String) : padded name 0 = name := by simp [padded]

theorem padded_succ (name : String) (count : Nat) :
    padded name (count + 1) = (padded name count).push '_' := by
  simp [padded, List.replicate_succ', ← String.toList_inj]

theorem padded_injective (name : String) : Function.Injective (padded name) := by
  intro i j h
  simpa [padded] using congrArg (fun s => s.toList.length) h

/-- One of the names is free if there are more of them than names that are taken. -/
theorem exists_padded_notMem (taken : List String) (name : String) :
    ∃ count < taken.length + 1, padded name count ∉ taken := by
  by_contra hall
  have hsub : (List.range (taken.length + 1)).map (padded name) ⊆ taken := by
    intro n hn
    obtain ⟨count, hcount, rfl⟩ := List.mem_map.1 hn
    by_contra hfree
    exact hall ⟨count, List.mem_range.1 hcount, hfree⟩
  have hnodup : ((List.range (taken.length + 1)).map (padded name)).Nodup :=
    List.nodup_range.map (padded_injective name)
  have hlength := (List.subperm_of_subset hnodup hsub).length_le
  rw [List.length_map, List.length_range] at hlength
  omega

/-- The first of the names that is free. -/
theorem freeName_eq (taken : List String) (name : String) :
    ∃ count, freeName taken name = padded name count ∧ padded name count ∉ taken ∧
      ∀ tried < count, padded name tried ∈ taken := by
  rw [freeName, List.find?_map]
  cases hfind : (List.range (taken.length + 1)).find?
      ((fun n => !taken.contains n) ∘ padded name) with
  | none =>
    obtain ⟨count, hcount, hfree⟩ := exists_padded_notMem taken name
    have := List.find?_eq_none.1 hfind count (List.mem_range.2 hcount)
    simp [hfree] at this
  | some count =>
    obtain ⟨hfree, -, htried⟩ := List.find?_range_eq_some.1 hfind
    exact ⟨count, rfl, by simpa using hfree, fun tried h => by simpa using htried tried h⟩

/-- The renaming comes to an end. -/
theorem renames_freeName (taken : List String) (name : String) :
    Renames taken name (freeName taken name) := by
  obtain ⟨count, heq, hfree, htried⟩ := freeName_eq taken name
  -- backwards from the free name to the one that was asked for
  have hfrom (left : Nat) (h : left ≤ count) :
      Renames taken (padded name (count - left)) (padded name count) := by
    induction left with
    | zero => exact .free hfree
    | succ left ih =>
      have hsucc : count - left = count - (left + 1) + 1 := by omega
      rw [hsucc, padded_succ] at ih
      exact .again (htried _ (by omega)) (ih (by omega))
  simpa [heq] using hfrom count (Nat.le_refl count)

/-! ## All modules -/

/-- Each module of a hand-authored file is renamed next to those that are taken and those before. -/
theorem renames_of_handModules {taken files : List String} {before after : List (String × String)}
    {entry : String × String} (h : handModules taken files = before ++ entry :: after) :
    Renames (taken ++ before.map (·.2)) (moduleName (stem entry.1)) entry.2 := by
  induction files generalizing taken before with
  | nil => simp [handModules] at h
  | cons file rest ih =>
    rw [handModules] at h
    cases before with
    | nil =>
      obtain ⟨rfl, -⟩ := List.cons_eq_cons.1 h
      simpa using renames_freeName taken _
    | cons first before =>
      obtain ⟨rfl, hrest⟩ := List.cons_eq_cons.1 h
      refine (ih hrest).congr fun n => ?_
      simp only [List.mem_append, List.mem_cons, List.map_cons]
      grind

end ContentModels.Rendering
