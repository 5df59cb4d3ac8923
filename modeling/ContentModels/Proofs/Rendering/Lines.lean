import ContentModels.Proofs.Text.Words
import ContentModels.Rendering.Model
import ContentModels.Text.Split

/-!
# Reading lines

Generated code is written line by line, and the lines are those of the text unless one of them holds
a line break. What a line declares is read off how it starts and which name stands there.

## Main definitions

* `behind?` — what follows a beginning.
* `splitName` — the name that a text starts with.
* `textLines` — the lines of a text.
* `IsLine` — a text that is one line.

## Main statements

* `textLines_lines` — lines that are written are the lines of the text.
-/

namespace ContentModels.Rendering

open Text Naming

/-- What follows a beginning. -/
def behind? (beginning : String) (cs : List Char) : Option (List Char) :=
  if beginning.toList.isPrefixOf cs then some (cs.drop beginning.toList.length) else none

/-- The name that a text starts with, and what follows it. -/
def splitName (cs : List Char) : String × List Char :=
  (String.ofList (cs.takeWhile isIdentifierChar), cs.dropWhile isIdentifierChar)

theorem splitName_append {name : String} (h : IsPlain name.toList) {c : Char}
    (hc : isIdentifierChar c = false) (rest : List Char) :
    splitName (name.toList ++ c :: rest) = (name, c :: rest) := by
  rw [splitName, List.takeWhile_append_of_pos h, List.dropWhile_append_of_pos h]
  simp [hc]

theorem namespaceLine_eq (space : String) :
    namespaceLine space = "//! Models of the `" ++ space ++ "` namespace." := rfl

/-! ## Lines of a text -/

/-- The lines of a text. -/
def textLines (text : String) : List String := (Text.lines text.toList).map String.ofList

/-- A text that is one line, whatever stands before and behind it. -/
structure IsLine (line : String) : Prop where
  noBreak : '\n' ∉ line.toList
  noReturn : line.toList.getLast? ≠ some '\r'

instance (line : String) : Decidable (IsLine line) :=
  decidable_of_iff ('\n' ∉ line.toList ∧ line.toList.getLast? ≠ some '\r')
    ⟨fun h => ⟨h.1, h.2⟩, fun h => ⟨h.1, h.2⟩⟩

theorem pieces_lines {l : List String} (h : ∀ line ∈ l, '\n' ∉ line.toList) :
    pieces '\n' (lines l).toList = l.map String.toList ++ [[]] := by
  induction l with
  | nil => rfl
  | cons line l ih =>
    obtain ⟨hline, hl⟩ := List.forall_mem_cons.1 h
    have hchars : (lines (line :: l)).toList = line.toList ++ '\n' :: (lines l).toList := by
      simp [lines, String.toList_join]
    rw [hchars, pieces_append_sep, pieces_of_not_mem hline, ih hl]
    rfl

/-- Lines that are written one below the other are the lines of the text. -/
theorem textLines_lines {l : List String} (h : ∀ line ∈ l, IsLine line) :
    textLines (lines l) = l := by
  have htrim : ∀ line ∈ l, String.ofList (trimReturn line.toList) = line := by
    intro line hline
    rw [trimReturn, if_neg (h line hline).noReturn, String.ofList_toList]
  rw [textLines, Text.lines, pieces_lines fun line hline => (h line hline).noBreak]
  simpa [Function.comp_def] using List.map_congr_left htrim

/-- A line that is written out is told to be one from its characters. -/
theorem IsLine.ofList {cs : List Char}
    (h : (cs.all (· != '\n') && cs.getLast? != some '\r') = true) : IsLine (String.ofList cs) := by
  simp only [Bool.and_eq_true, List.all_eq_true, bne_iff_ne] at h
  constructor
  · rw [String.toList_ofList]
    exact fun hmem => h.1 _ hmem rfl
  · rw [String.toList_ofList]
    exact h.2

theorem IsLine.append {beginning ending : String} (hbeginning : '\n' ∉ beginning.toList)
    (hne : ending ≠ "") (hending : IsLine ending) : IsLine (beginning ++ ending) where
  noBreak := by
    rw [String.toList_append, List.mem_append, not_or]
    exact ⟨hbeginning, hending.noBreak⟩
  noReturn := by
    have hchars : ending.toList ≠ [] := fun h => hne (String.toList_eq_nil_iff.1 h)
    rw [String.toList_append, List.getLast?_append_of_ne_nil _ hchars]
    exact hending.noReturn

/-- Lines that are written out, one after the other. -/
theorem IsLine.all_cons {cs : List Char} {l : List String}
    (h : (cs.all (· != '\n') && cs.getLast? != some '\r') = true) (hl : ∀ line ∈ l, IsLine line) :
    ∀ line ∈ String.ofList cs :: l, IsLine line :=
  List.forall_mem_cons.2 ⟨.ofList h, hl⟩

/-- A line that is written out in two parts. -/
theorem IsLine.all_consAppend {c d : Char} {cs ds : List Char} {l : List String}
    (hbeginning : ((c :: cs).all (· != '\n') && (c :: cs).getLast? != some '\r') = true)
    (hending : ((d :: ds).all (· != '\n') && (d :: ds).getLast? != some '\r') = true)
    (hl : ∀ line ∈ l, IsLine line) :
    ∀ line ∈ (String.ofList (c :: cs) ++ String.ofList (d :: ds)) :: l, IsLine line := by
  have hne : String.ofList (d :: ds) ≠ "" := by simp [← String.toList_inj]
  exact List.forall_mem_cons.2 ⟨.append (IsLine.ofList hbeginning).noBreak hne (.ofList hending), hl⟩

end ContentModels.Rendering
