import ContentModels.Text.Split
import Mathlib.Data.List.Basic

/-!
# Laws of pieces

Cutting a text into pieces and joining pieces are inverse to each other, as long as no piece holds a
separator.

## Main statements

* `pieces_joinPieces` — the pieces of joined pieces.
* `pieces_append_sep` — the pieces of two texts with a separator between them.
* `exists_concat_pieces_of_suffix` — how a text ends is how its last piece ends.
-/

namespace ContentModels.Text

variable {sep : Char}

theorem pieces_of_not_mem {cs : List Char} (h : sep ∉ cs) : pieces sep cs = [cs] := by
  induction cs with
  | nil => rfl
  | cons c rest ih =>
    simp only [List.mem_cons, not_or] at h
    rw [pieces, if_neg (Ne.symm h.1), ih h.2]

theorem pieces_append_sep (cs ds : List Char) :
    pieces sep (cs ++ sep :: ds) = pieces sep cs ++ pieces sep ds := by
  induction cs with
  | nil => simp [pieces]
  | cons c rest ih =>
    rw [List.cons_append, pieces, pieces, ih]
    split
    · rfl
    · cases h : pieces sep rest with
      | nil => exact absurd h (pieces_ne_nil sep rest)
      | cons piece more => rfl

/-- No piece holds a separator. -/
theorem not_mem_of_mem_pieces {cs piece : List Char} (h : piece ∈ pieces sep cs) :
    sep ∉ piece := by
  induction cs generalizing piece with
  | nil => simp_all [pieces]
  | cons c rest ih =>
    rw [pieces] at h
    split at h
    · rcases List.mem_cons.1 h with rfl | h
      · simp
      · exact ih h
    · next hc =>
      cases hrest : pieces sep rest with
      | nil => exact absurd hrest (pieces_ne_nil sep rest)
      | cons p more =>
        rw [hrest] at h ih
        rcases List.mem_cons.1 h with rfl | h
        · simp only [List.mem_cons, not_or]
          exact ⟨Ne.symm hc, ih (by simp)⟩
        · exact ih (by simp [h])

/-- The pieces of joined pieces. -/
theorem pieces_joinPieces {l : List (List Char)} (hne : l ≠ []) (h : ∀ piece ∈ l, sep ∉ piece) :
    pieces sep (joinPieces sep l) = l := by
  induction l with
  | nil => exact absurd rfl hne
  | cons p rest ih =>
    cases rest with
    | nil => simpa [joinPieces, List.intercalate] using pieces_of_not_mem (h p (by simp))
    | cons q more =>
      rw [joinPieces_cons _ _ (by simp), pieces_append_sep, pieces_of_not_mem (h p (by simp)),
        ih (by simp) fun piece hpiece => h piece (by simp [hpiece])]
      rfl

theorem joinPieces_append {l m : List (List Char)} (hl : l ≠ []) (hm : m ≠ []) :
    joinPieces sep (l ++ m) = joinPieces sep l ++ sep :: joinPieces sep m := by
  induction l with
  | nil => exact absurd rfl hl
  | cons p rest ih =>
    cases rest with
    | nil => rw [List.singleton_append, joinPieces_cons _ _ hm]; simp [joinPieces]
    | cons q more =>
      rw [List.cons_append, joinPieces_cons _ _ (by simp), joinPieces_cons _ _ (by simp),
        ih (by simp), List.append_assoc, List.cons_append]

theorem joinPieces_isPrefix {l m : List (List Char)} (h : l <+: m) :
    joinPieces sep l <+: joinPieces sep m := by
  obtain ⟨r, rfl⟩ := h
  by_cases hl : l = []
  · simp [hl, joinPieces]
  · by_cases hr : r = []
    · simp [hr]
    · rw [joinPieces_append hl hr]
      exact List.prefix_append ..

/-- Joined pieces hold nothing but what the pieces hold, and separators. -/
theorem not_mem_joinPieces {c : Char} {l : List (List Char)} (hsep : c ≠ sep)
    (h : ∀ piece ∈ l, c ∉ piece) : c ∉ joinPieces sep l := by
  induction l with
  | nil => simp [joinPieces]
  | cons p rest ih =>
    cases rest with
    | nil => simpa [joinPieces] using h
    | cons q more =>
      have hrest := ih fun piece hpiece => h piece (List.mem_cons_of_mem _ hpiece)
      rw [joinPieces_cons _ _ (by simp), List.mem_append, List.mem_cons, not_or, not_or]
      exact ⟨h p List.mem_cons_self, hsep, hrest⟩

/-- How a text ends is how its last piece ends. -/
theorem exists_concat_pieces_of_suffix {cs ending : List Char} (h : ending <:+ cs)
    (hsep : sep ∉ ending) : ∃ l last, pieces sep cs = l ++ [last] ∧ ending <:+ last := by
  induction cs with
  | nil =>
    rw [List.suffix_nil.1 h]
    exact ⟨[], [], rfl, List.suffix_rfl⟩
  | cons c rest ih =>
    rcases List.suffix_cons_iff.1 h with rfl | h
    · exact ⟨[], _, pieces_of_not_mem hsep, List.suffix_rfl⟩
    · obtain ⟨l, last, hl, hlast⟩ := ih h
      rw [pieces, hl]
      split
      · exact ⟨[] :: l, last, rfl, hlast⟩
      · cases l with
        | nil => exact ⟨[], c :: last, rfl, hlast.trans (List.suffix_cons ..)⟩
        | cons p more => exact ⟨(c :: p) :: more, last, rfl, hlast⟩

end ContentModels.Text
