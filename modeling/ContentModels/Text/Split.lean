/-!
# Pieces and lines of a text

A text falls into pieces at every occurrence of a separator; joining the pieces with the separator
gives the text again. A line ends at a line feed, perhaps with a carriage return before it. What
follows the last line feed is a line if it is not empty.
-/

namespace ContentModels.Text

/-- The pieces between the occurrences of a character; there is always at least one. -/
def pieces (sep : Char) : List Char → List (List Char)
  | [] => [[]]
  | c :: rest =>
    if c = sep then [] :: pieces sep rest
    else
      match pieces sep rest with
      | [] => [[c]]
      | piece :: more => (c :: piece) :: more

theorem pieces_ne_nil (sep : Char) (cs : List Char) : pieces sep cs ≠ [] := by
  induction cs with
  | nil => simp [pieces]
  | cons c rest ih =>
    rw [pieces]
    split
    · simp
    · split <;> simp

/-- The pieces put together again. -/
def joinPieces (sep : Char) (l : List (List Char)) : List Char := [sep].intercalate l

theorem joinPieces_cons (sep : Char) (piece : List Char) {l : List (List Char)} (h : l ≠ []) :
    joinPieces sep (piece :: l) = piece ++ sep :: joinPieces sep l := by
  cases l with
  | nil => exact absurd rfl h
  | cons a l => simp [joinPieces, List.intercalate, List.intersperse]

/-- Nothing is lost when a text is cut into pieces. -/
@[simp] theorem joinPieces_pieces (sep : Char) (cs : List Char) :
    joinPieces sep (pieces sep cs) = cs := by
  induction cs with
  | nil => rfl
  | cons c rest ih =>
    rw [pieces]
    have hne := pieces_ne_nil sep rest
    split
    · next h => rw [joinPieces_cons _ _ hne, ih, h]; rfl
    · split
      · next h => exact absurd h hne
      · next piece more h =>
        rw [h] at ih
        cases more with
        | nil => simp_all [joinPieces, List.intercalate]
        | cons a l =>
          rw [joinPieces_cons _ _ (by simp)] at ih ⊢
          rw [List.cons_append, ih]

/-- Puts `sep` between the texts of a list. -/
def joinWith (sep : String) (l : List String) : String := sep.intercalate l

/-! ## Lines -/

/-- A line without the carriage return at its end. -/
def trimReturn (line : List Char) : List Char :=
  if line.getLast? = some '\r' then line.dropLast else line

/-- The lines of a text. -/
def lines (cs : List Char) : List (List Char) :=
  let all := pieces '\n' cs
  all.dropLast.map trimReturn ++ all.getLast?.toList.filter fun line => !line.isEmpty

end ContentModels.Text
