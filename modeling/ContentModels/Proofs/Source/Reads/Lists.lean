import ContentModels.Proofs.Source.Running
import Mathlib.Data.List.Forall2

/-!
# How lists are read

A reader of lists runs a reader of parts. What it answers on a list that is put together from parts
is known from what the reader of parts answers on each of them, before whatever follows.

## Main definitions

* `Parser.Reads` — what a reader answers on tokens, whatever the place.
* `commas` — lists of tokens with commas between them.
* `Parser.Element`, `Parser.Piece` — what a reader answers on one part of a list.

## Main statements

* `Parser.commaList_eq` — a list with commas is read element by element.
* `Parser.untilEnd_eq` — what stands to the end of a group is read piece by piece.
-/

namespace ContentModels.Source

/-- What a reader answers on tokens, of which it leaves those of `rest`. -/
def Parser.Reads {α : Type} (p : Parser α) (ts : List Token) (v : α) (rest : List Token) : Prop :=
  ∀ scope, p scope ⟨ts ++ rest, none⟩ = .ok (v, ⟨rest, none⟩)

/-- Lists of tokens with commas between them. -/
def commas : List (List Token) → List Token
  | [] => []
  | [ts] => ts
  | ts :: more => ts ++ .punct ',' false {} :: commas more

theorem commas_cons (ts : List Token) (more : List (List Token)) :
    commas (ts :: more) = ts ++ more.flatMap fun us => .punct ',' false {} :: us := by
  induction more generalizing ts with
  | nil => simp [commas]
  | cons us more ih => simp [commas, ih]

/-- Whether a list ends or goes on with a comma. -/
def endsElement (ts : List Token) : Prop := ts = [] ∨ ∃ more, ts = .punct ',' false {} :: more

theorem endsElement_flatMap (tss : List (List Token)) :
    endsElement (tss.flatMap fun ts => .punct ',' false {} :: ts) := by
  cases tss with
  | nil => exact .inl rfl
  | cons ts more => exact .inr ⟨_, rfl⟩

theorem length_le_flatten (tss : List (List Token)) (h : ∀ ts ∈ tss, ts ≠ []) :
    tss.length ≤ tss.flatten.length := by
  induction tss with
  | nil => exact Nat.le_refl _
  | cons ts tss ih =>
    obtain ⟨hts, hmore⟩ := List.forall_mem_cons.1 h
    have := ih hmore
    have := List.length_pos_iff.2 hts
    rw [List.flatten_cons, List.length_append, List.length_cons]
    omega

namespace Parser

open Running

variable {α : Type} {p : Parser α} {tss : List (List Token)} {vs : List α} {fuel : Nat}

/-- What a reader answers on an element of a list with commas. -/
def Element (p : Parser α) (ts : List Token) (v : α) : Prop :=
  ts ≠ [] ∧ ∀ rest, endsElement rest → Reads p ts v rest

/-- What a reader answers on tokens, whatever follows them. -/
def Piece (p : Parser α) (ts : List Token) (v : α) : Prop := ts ≠ [] ∧ ∀ rest, Reads p ts v rest

theorem repeatFor_none {q : Parser (Option α)} {scope : Scope} {i o : Input}
    (h : q scope i = .ok (none, o)) : repeatFor q (fuel + 1) scope i = .ok ([], o) := by
  rw [run_repeatFor, h]
  rfl

theorem repeatFor_some {q : Parser (Option α)} {scope : Scope} {i j o : Input} {v : α}
    (h : q scope i = .ok (some v, j)) (hmore : repeatFor q fuel scope j = .ok (vs, o)) :
    repeatFor q (fuel + 1) scope i = .ok (v :: vs, o) := by
  rw [run_repeatFor, h, onward_ok]
  simp only [run_bind, hmore, onward_ok, run_pure]

/-- Further elements, each behind a comma. -/
theorem furtherElements_eq (scope : Scope) (h : List.Forall₂ (Element p) tss vs)
    (hfuel : tss.length < fuel) :
    repeatFor (do
      if ← ahead .atEnd then return none
      mark ","
      if ← ahead .atEnd then return none
      return some (← p)) fuel scope ⟨tss.flatMap fun ts => .punct ',' false {} :: ts, none⟩ =
      .ok (vs, ⟨[], none⟩) := by
  obtain ⟨fuel, rfl⟩ := Nat.exists_eq_add_one.2 (Nat.zero_lt_of_lt hfuel)
  induction h generalizing fuel with
  | nil => exact repeatFor_none (by simp)
  | @cons ts v tss vs he _ ih =>
    have hlength : tss.length < fuel := Nat.lt_of_succ_lt_succ hfuel
    obtain ⟨fuel, rfl⟩ := Nat.exists_eq_add_one.2 (Nat.zero_lt_of_lt hlength)
    have hread := he.2 _ (endsElement_flatMap tss) scope
    exact repeatFor_some (by simp [he.1, hread]) (ih fuel hlength)

theorem commaList_eq (scope : Scope) (h : List.Forall₂ (Element p) tss vs) :
    commaList p scope ⟨commas tss, none⟩ = .ok (vs, ⟨[], none⟩) := by
  cases h with
  | nil => simp [commaList, separated, commas]
  | @cons ts v tss vs he h =>
    have hlength : tss.length ≤ (tss.flatMap fun ts => Token.punct ',' false {} :: ts).length := by
      simpa [List.flatMap_def] using
        length_le_flatten (tss.map fun ts => Token.punct ',' false {} :: ts) (by simp)
    have hmore := furtherElements_eq scope h (Nat.lt_add_right 1 (Nat.lt_succ_of_le hlength))
    have hread := he.2 _ (endsElement_flatMap tss) scope
    simp only [bind_pure_comp] at hmore
    rw [commas_cons]
    generalize (tss.flatMap fun ts => Token.punct ',' false {} :: ts) = tail at hread hmore ⊢
    simp [-run_repeatFor, commaList, separated, he.1, hread, hmore]

theorem repeatPieces_eq (scope : Scope) (h : List.Forall₂ (Piece p) tss vs)
    (hfuel : tss.length < fuel) :
    repeatFor (do if ← ahead .atEnd then return none else return some (← p)) fuel scope
      ⟨tss.flatten, none⟩ = .ok (vs, ⟨[], none⟩) := by
  obtain ⟨fuel, rfl⟩ := Nat.exists_eq_add_one.2 (Nat.zero_lt_of_lt hfuel)
  induction h generalizing fuel with
  | nil => exact repeatFor_none (by simp)
  | @cons ts v tss vs he _ ih =>
    have hlength : tss.length < fuel := Nat.lt_of_succ_lt_succ hfuel
    obtain ⟨fuel, rfl⟩ := Nat.exists_eq_add_one.2 (Nat.zero_lt_of_lt hlength)
    have hread := he.2 tss.flatten scope
    exact repeatFor_some (by simp [he.1, hread]) (ih fuel hlength)

theorem untilEnd_eq (scope : Scope) (h : List.Forall₂ (Piece p) tss vs) :
    untilEnd p scope ⟨tss.flatten, none⟩ = .ok (vs, ⟨[], none⟩) := by
  have hne : ∀ ts ∈ tss, ts ≠ [] := by
    induction h with
    | nil => simp
    | cons he _ ih => exact List.forall_mem_cons.2 ⟨he.1, ih⟩
  rw [untilEnd, run_repeatUntil]
  exact repeatPieces_eq scope h (Nat.lt_add_right 1 (Nat.lt_succ_of_le (length_le_flatten _ hne)))

end Parser

end ContentModels.Source
