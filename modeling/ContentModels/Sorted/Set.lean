import ContentModels.Sorted.Map

/-!
# Sets in order

A finite set is held as its members in increasing order.
-/

namespace ContentModels

/-- A finite set: a map that tells nothing but which keys are there. -/
abbrev SortedSet (α : Type) [Ord α] := SortedMap α Unit

namespace SortedSet

variable {α : Type} [Ord α]

/-- The members, in order. -/
def toList (s : SortedSet α) : List α := s.keys

variable [Std.TransOrd α]

/-- The set with one more member. -/
def add (s : SortedSet α) (a : α) : SortedSet α := s.alter a fun _ => ()

/-- The set with the members of a list. -/
def addAll (s : SortedSet α) (l : List α) : SortedSet α := l.foldl add s

/-- The set of the members of a list. -/
def ofList (l : List α) : SortedSet α := addAll ∅ l

/-- The members of both sets. -/
def union (s t : SortedSet α) : SortedSet α := s.addAll t.toList

theorem contains_alterEntries {a b : α} {l : List (α × Unit)} :
    ((alterEntries a (fun _ => ()) l).any fun e => compare b e.1 == .eq) =
      (compare b a == .eq || l.any fun e => compare b e.1 == .eq) := by
  induction l with
  | nil => simp [alterEntries]
  | cons d rest ih =>
    rw [alterEntries]
    split
    · simp
    · next h =>
      have : compare b d.1 = .eq ↔ compare b a = .eq :=
        ⟨fun h' => Std.TransCmp.eq_trans h' (Std.OrientedCmp.eq_symm h),
          fun h' => Std.TransCmp.eq_trans h' h⟩
      by_cases hb : compare b a = .eq <;> simp_all
    · simp [ih, Bool.or_left_comm]

@[simp] theorem contains_add (s : SortedSet α) (a b : α) :
    (s.add a).contains b = (compare b a == .eq || s.contains b) :=
  contains_alterEntries

@[simp] theorem contains_addAll (s : SortedSet α) (l : List α) (b : α) :
    (s.addAll l).contains b = (s.contains b || l.any fun a => compare b a == .eq) := by
  induction l generalizing s with
  | nil => simp [addAll]
  | cons a rest ih =>
    have := ih (s.add a)
    rw [contains_add] at this
    simp only [addAll, List.foldl_cons, List.any_cons] at this ⊢
    rw [this, Bool.or_assoc, Bool.or_left_comm]

end SortedSet

end ContentModels
