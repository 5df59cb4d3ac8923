import ContentModels.Proofs.Disk.Steps

/-!
# Spellings of a place

Where a path leads does not depend on the tree: dots, separators and names say it, and the tree only
says whether something is there. So a directory can be spelled before it is there, and all spellings
of one place lead to the same directory as soon as they lead to any.

## Main definitions

* `Path.place` — the place that a path is written for.
* `Path.Spells` — whether a path is written for a directory in some place.

## Main statements

* `FileTree.place_of_find` — what is found is in the place that its path is written for.
* `FileTree.exists_entry_of_find_generated` — what is found at the path of a generated file.
* `Glob.suffix_of_mem_list` — the paths of generated files that a listing gives.
-/

namespace ContentModels

open Text

/-- The place that one piece of a path leads to. -/
def Location.advance (l : Location) (piece : List Char) : Location :=
  if !Path.counts piece then l
  else if piece == ['.', '.'] then l.parent
  else l.child (String.ofList piece)

namespace Path

/-- The place that a path is written for, seen from where relative paths start. -/
def place (here : Location) (p : Path) : Location :=
  p.allPieces.foldl Location.advance (if p.isAbsolute then .root else here)

/-- Whether a path is written for a directory in some place. An empty path leads to no directory. -/
def Spells (here : Location) (p : Path) (l : Location) : Prop := p.chars ≠ [] ∧ p.place here = l

instance {here l : Location} {p : Path} : Decidable (p.Spells here l) :=
  inferInstanceAs (Decidable (_ ∧ _))

end Path

namespace FileTree

variable {t : FileTree} {dir l m : Location} {p : Path} {piece : List Char} {ps : List (List Char)}

theorem eq_advance_of_toward (h : t.toward dir piece = some m) : m = dir.advance piece := by
  unfold toward at h
  unfold Location.advance
  split at h
  · next hc => rw [if_pos hc, Option.some.inj h]
  next hc =>
  rw [if_neg hc]
  split at h
  · next hup => rw [if_pos hup, Option.some.inj h]
  next hup =>
  rw [if_neg hup]
  split at h
  · rw [Option.some.inj h]
  · cases h

theorem eq_foldl_advance_of_walk {n : Node} (h : t.walk dir ps = .ok (.node l n)) :
    l = ps.foldl Location.advance dir := by
  induction ps generalizing dir with
  | nil =>
    cases h
    rfl
  | cons piece rest ih =>
    rw [List.foldl_cons]
    cases htoward : t.toward dir piece with
    | some m =>
      rw [walk_cons_of_toward htoward] at h
      rw [← eq_advance_of_toward htoward]
      exact ih h
    | none =>
      obtain ⟨⟨hup, hc⟩, hwalk⟩ := walk_cons_of_toward_eq_none htoward rest
      rw [h] at hwalk
      split at hwalk
      · split at hwalk
        · next hrest =>
          cases hwalk
          simp [hrest, Location.advance, hup, hc]
        · cases hwalk
      · split at hwalk <;> cases hwalk

/-- What is found is in the place that its path is written for. -/
theorem place_of_find {n : Node} (h : t.find p = .ok (.node l n)) : p.place t.here = l := by
  rw [find_eq (chars_ne_nil_of_find h)] at h
  exact (eq_foldl_advance_of_walk h).symm

/-- So is what is found after changes of files. -/
theorem Frame.place_of_find {touched : Location → Prop} {t' : FileTree} {n : Node}
    (hframe : Frame touched t t') (h : t'.find p = .ok (.node l n)) : p.place t.here = l :=
  hframe.here ▸ FileTree.place_of_find h

/-- Whatever is found at the path of a generated file is found under the name of one. -/
theorem exists_entry_of_find_generated {f : Finding}
    (hending : Naming.generatedSuffix.toList <:+ p.chars) (h : t.find p = .ok f) :
    ∃ (m : Location) (x : String), EndsGenerated x ∧ f = t.entry m x := by
  obtain ⟨init, last, hpieces, hlast⟩ :=
    exists_concat_pieces_of_suffix hending (by decide : '/' ∉ Naming.generatedSuffix.toList)
  obtain ⟨front, hfront⟩ := hlast
  have hlength : Naming.generatedSuffix.toList.length ≤ last.length := by
    rw [← hfront, List.length_append]
    exact Nat.le_add_left ..
  have hname : Path.IsName (String.ofList last) := by
    refine ⟨?_, ?_, ?_⟩ <;> rw [String.toList_ofList]
    · exact not_mem_of_mem_pieces (hpieces ▸ List.mem_concat_self)
    · rw [Path.counts, Bool.not_eq_true', Bool.or_eq_false_iff]
      constructor
      · rw [List.isEmpty_eq_false_iff]
        rintro rfl
        revert hlength
        decide
      · rw [beq_eq_false_iff_ne]
        rintro rfl
        revert hlength
        decide
    · rintro rfl
      revert hlength
      decide
  rw [find_eq (chars_ne_nil_of_find h), Path.allPieces, hpieces, ← String.toList_ofList (l := last)]
    at h
  obtain ⟨m, -, hf⟩ := exists_entry_of_walk_concat hname h
  exact ⟨m, _, ⟨front, by rw [hfront, String.toList_ofList]⟩, hf⟩

end FileTree

namespace Glob

/-- The paths of generated files that a listing gives end like their names. -/
theorem suffix_of_mem_list {t : FileTree} {dir file : Path} {files : List Path}
    (h : list t dir generatedPattern = .ok files) (hfile : file ∈ files) :
    Naming.generatedSuffix.toList <:+ file.chars := by
  unfold list at h
  split at h
  · obtain rfl := Except.ok.inj h
    cases hfile
  simp only [endsLike_generatedPattern.patternSteps] at h
  split at h
  · obtain rfl := Except.ok.inj h
    cases hfile
  obtain rfl := Except.ok.inj h
  have hsteps : dirSteps dir = (dirNames dir).map (·.map .char) := rfl
  have hstart : (if dir.isAbsolute then (⟨"/"⟩ : Path) else ⟨"."⟩) = startOf dir := rfl
  rw [List.mem_mergeSort, hsteps, hstart, search_names, search_ending] at hfile
  split at hfile
  · obtain ⟨x, hx, rfl⟩ := List.mem_map.1 hfile
    have hending := (Bool.and_eq_true_iff.1 (List.mem_filter.1 hx).2).1
    refine (List.isSuffixOf_iff_suffix.1 hending).trans ?_
    unfold below
    split
    · exact List.suffix_rfl
    · exact Path.suffix_file _ x
  · cases hfile

end Glob

end ContentModels
