import ContentModels.Proofs.Plan.Merging

/-!
# Where two declarations meet

A declaration that meets an earlier one of the same handle is dropped. That is said, or it is an
error, or neither: the three cases depend on the two declarations and on the composing type alone.
The laws here say at which declaration adding a list of them fails, and of which ones it warns.

## Main definitions

* `Declared.Clashes` — two declarations that no type but the one that declares the first may have.
* `incompatibility` — the error then.

## Main statements

* `Composed.add_of_new`, `Composed.add_of_first` — adding one declaration.
* `Composed.exists_of_addAll_error` — where adding declarations in order fails.
* `Composed.settled_of_addAll` — what is said when it does not fail.
-/

namespace ContentModels

/-- A computation that goes on after another one fails in one of the two. -/
theorem Except.bind_error_iff {ε α β : Type} {x : Except ε α} {f : α → Except ε β} {e : ε} :
    (x >>= f) = .error e ↔ x = .error e ∨ ∃ a, x = .ok a ∧ f a = .error e := by
  cases x <;> simp [bind, Except.bind]

/-! ## The first declaration of a handle -/

/-- The first declaration of a handle after one was added: it stays, and may become ignored. -/
theorem firstOf_absorb (l : List Declared) (d : Declared) (handle : String) :
    firstOf (absorb l d) handle =
      if d.property.handle = handle then
        some ((firstOf l handle).elim d (·.ignoreIf d.property.ignored))
      else firstOf l handle := by
  induction l with
  | nil => simp [absorb, firstOf]
  | cons e rest ih =>
    simp only [firstOf] at ih ⊢
    by_cases hed : e.property.handle = d.property.handle
    · by_cases hd : d.property.handle = handle <;> simp [absorb, hed, hd]
    · by_cases he : e.property.handle = handle
      · have hd : ¬d.property.handle = handle := fun h => hed (he.trans h.symm)
        have hhandle : ¬handle = d.property.handle := Ne.symm hd
        simp [absorb, he, hd, hhandle]
      · simpa [absorb, hed, he] using ih

/-- Declarations of other handles leave the first one of a handle alone. -/
theorem firstOf_foldl_absorb_of_notMem {m : List Declared} {handle : String}
    (h : handle ∉ handles m) (l : List Declared) :
    firstOf (m.foldl absorb l) handle = firstOf l handle := by
  induction m generalizing l with
  | nil => rfl
  | cons d rest ih =>
    simp only [handles_cons, List.mem_cons, not_or] at h
    rw [List.foldl_cons, ih h.2, firstOf_absorb, if_neg (Ne.symm h.1)]

theorem handle_of_firstOf {l : List Declared} {handle : String} {d : Declared}
    (h : firstOf l handle = some d) : d.property.handle = handle := by
  simpa using List.find?_some h

theorem mem_of_firstOf {l : List Declared} {handle : String} {d : Declared}
    (h : firstOf l handle = some d) : d ∈ l := List.mem_of_find?_eq_some h

/-! ## Two declarations -/

/-- Two declarations of one handle that cannot both be had by a type: their values differ by more
than an option, and the type does not declare the first one itself. -/
structure Declared.Clashes (owner : String) (kept dropped : Declared) : Prop where
  differ : sameType kept.property.valueType dropped.property.valueType = false
  foreign : kept.declaredBy ≠ owner
  apart : compatible kept.property.valueType dropped.property.valueType = false

/-- The error that two declarations are incompatible. -/
def incompatibility (owner : String) (kept dropped : Declared) : PlanError :=
  .incompatible owner kept.property.handle kept.property.valueType s!"'{kept.declaredBy}'"
    dropped.property.valueType s!"'{dropped.declaredBy}'"

namespace Declared

variable {owner : String} {kept dropped : Declared}

/-- Settling two declarations fails if they clash. -/
theorem settle_of_clashes (h : Clashes owner kept dropped) :
    kept.settle owner dropped = .error (incompatibility owner kept dropped) := by
  simp [settle, h.differ, h.foreign, h.apart, incompatibility]

/-- Otherwise the second one is dropped, with a warning if its values are of another type. -/
theorem settle_of_not_clashes (h : ¬Clashes owner kept dropped) :
    kept.settle owner dropped =
      .ok (if sameType kept.property.valueType dropped.property.valueType then []
        else [droppedWarning owner kept dropped]) := by
  cases hdiffer : sameType kept.property.valueType dropped.property.valueType with
  | true => simp [settle, hdiffer]
  | false =>
    have hgives : (kept.declaredBy == owner ||
        compatible kept.property.valueType dropped.property.valueType) = true := by
      by_contra hnot
      rw [Bool.or_eq_true, not_or, beq_iff_eq, Bool.not_eq_true] at hnot
      exact h ⟨hdiffer, hnot.1, hnot.2⟩
    simp only [settle, hdiffer, hgives, Bool.false_eq_true, if_false, if_true]

end Declared

/-! ## Adding declarations -/

theorem mergeInto_of_new {d : Declared} {l : List Declared} (h : d.property.handle ∉ handles l)
    (owner : String) : mergeInto owner d l = .ok (l ++ [d], []) := by
  induction l with
  | nil => rfl
  | cons e rest ih =>
    simp only [handles_cons, List.mem_cons, not_or] at h
    rw [mergeInto, if_neg (by simpa using Ne.symm h.1), ih h.2]
    rfl

/-- A declaration is settled with the first one of its handle. -/
theorem mergeInto_of_first {d kept : Declared} {l : List Declared}
    (h : firstOf l d.property.handle = some kept) (owner : String) :
    mergeInto owner d l = (kept.settle owner d).map (absorb l d, ·) := by
  induction l with
  | nil => cases h
  | cons e rest ih =>
    by_cases he : e.property.handle = d.property.handle
    · obtain rfl : e = kept := by simpa [firstOf, he] using h
      rw [mergeInto, if_pos (by simpa using he), absorb, if_pos he]
      cases e.settle owner d <;> rfl
    · have hrest : firstOf rest d.property.handle = some kept := by simpa [firstOf, he] using h
      rw [mergeInto, if_neg (by simpa using he), absorb, if_neg he, ih hrest]
      cases kept.settle owner d <;> rfl

namespace Composed

variable {c c' : Composed} {owner : String} {l : List Declared} {d kept dropped : Declared}

theorem add_of_new (h : firstOf c.declared d.property.handle = none) :
    c.add owner d = .ok ⟨c.declared ++ [d], c.warnings⟩ := by
  rw [add, mergeInto_of_new (firstOf_eq_none.1 h)]
  simp [bind, Except.bind, pure, Except.pure]

theorem add_of_first (h : firstOf c.declared d.property.handle = some kept) :
    c.add owner d =
      (kept.settle owner d).map fun w => ⟨absorb c.declared d, c.warnings ++ w⟩ := by
  rw [add, mergeInto_of_first h]
  cases kept.settle owner d <;> rfl

/-- Adding a declaration fails if it clashes with the first one of its handle, and only then. -/
theorem add_error_iff {e : PlanError} :
    c.add owner d = .error e ↔ ∃ kept, firstOf c.declared d.property.handle = some kept ∧
      kept.Clashes owner d ∧ e = incompatibility owner kept d := by
  cases hfirst : firstOf c.declared d.property.handle with
  | none => simp [add_of_new hfirst]
  | some kept =>
    rw [add_of_first hfirst]
    by_cases h : kept.Clashes owner d
    · simp [Declared.settle_of_clashes h, h, Except.map, eq_comm]
    · simp [Declared.settle_of_not_clashes h, h, Except.map]

theorem addAll_append (c : Composed) (owner : String) (l m : List Declared) :
    c.addAll owner (l ++ m) = c.addAll owner l >>= fun c => c.addAll owner m := by
  induction l generalizing c with
  | nil => rfl
  | cons d rest ih =>
    rw [List.cons_append, addAll, addAll, bind_assoc]
    exact bind_congr fun c => ih c

/-- Adding declarations in order fails at one that clashes with the first of its handle so far. -/
theorem exists_of_addAll_error {e : PlanError} (h : c.addAll owner l = .error e) :
    ∃ (before : List Declared) (dropped : Declared) (after : List Declared) (kept : Declared),
      l = before ++ dropped :: after ∧
        firstOf (before.foldl absorb c.declared) dropped.property.handle = some kept ∧
          kept.Clashes owner dropped ∧ e = incompatibility owner kept dropped := by
  induction l generalizing c with
  | nil => cases h
  | cons d rest ih =>
    rcases Except.bind_error_iff.1 h with hadd | ⟨c₁, hadd, h⟩
    · obtain ⟨kept, hfirst, hclash, rfl⟩ := add_error_iff.1 hadd
      exact ⟨[], d, rest, kept, rfl, hfirst, hclash, rfl⟩
    · obtain ⟨before, dropped, after, kept, rfl, hfirst, hclash, rfl⟩ := ih h
      rw [add_declared hadd] at hfirst
      exact ⟨d :: before, dropped, after, kept, rfl, hfirst, hclash, rfl⟩

/-- Adding a declaration that has to be settled adds what is said of it, if anything. -/
theorem warnings_of_add (h : c.add owner d = .ok c')
    (first : firstOf c.declared d.property.handle = some kept) :
    c'.warnings = c.warnings ++
      if sameType kept.property.valueType d.property.valueType then []
      else [droppedWarning owner kept d] := by
  have hnot : ¬kept.Clashes owner d := by
    intro hclash
    rw [add_error_iff.2 ⟨kept, first, hclash, rfl⟩] at h
    cases h
  rw [add_of_first first, Declared.settle_of_not_clashes hnot] at h
  exact congrArg warnings (Except.ok.inj h).symm

theorem warnings_subset_of_add (h : c.add owner d = .ok c') : c.warnings ⊆ c'.warnings := by
  cases hfirst : firstOf c.declared d.property.handle with
  | none =>
    rw [add_of_new hfirst] at h
    obtain rfl := Except.ok.inj h
    exact List.Subset.refl _
  | some kept =>
    rw [warnings_of_add h hfirst]
    exact List.subset_append_left ..

theorem warnings_subset_of_addAll (h : c.addAll owner l = .ok c') : c.warnings ⊆ c'.warnings := by
  induction l generalizing c with
  | nil =>
    obtain rfl := Except.ok.inj h
    exact List.Subset.refl _
  | cons d rest ih =>
    obtain ⟨c₁, h₁, h⟩ := Except.bind_ok_iff.1 h
    exact List.Subset.trans (warnings_subset_of_add h₁) (ih h)

/-- Where declarations were added in order, none of them clashes with the first of its handle, and
one with values of another type was dropped with a warning. -/
theorem settled_of_addAll {before after : List Declared}
    (h : c.addAll owner (before ++ dropped :: after) = .ok c')
    (first : firstOf (before.foldl absorb c.declared) dropped.property.handle = some kept) :
    ¬kept.Clashes owner dropped ∧
      (sameType kept.property.valueType dropped.property.valueType = false →
        droppedWarning owner kept dropped ∈ c'.warnings) := by
  rw [addAll_append] at h
  obtain ⟨c₁, h₁, h⟩ := Except.bind_ok_iff.1 h
  obtain ⟨c₂, h₂, h⟩ := Except.bind_ok_iff.1 h
  rw [← addAll_declared h₁] at first
  constructor
  · intro hclash
    rw [add_error_iff.2 ⟨kept, first, hclash, rfl⟩] at h₂
    cases h₂
  · intro hdiffer
    apply warnings_subset_of_addAll h
    simp [warnings_of_add h₂ first, hdiffer]

/-- A type may declare a handle as often as it likes. -/
theorem exists_addAll_of_own {owner : String} {l : List Declared}
    (hl : ∀ d ∈ l, d.declaredBy = owner) : ∃ c, addAll {} owner l = .ok c := by
  cases h : addAll {} owner l with
  | ok c => exact ⟨c, rfl⟩
  | error e =>
    obtain ⟨before, dropped, after, kept, rfl, hfirst, hclash, -⟩ := exists_of_addAll_error h
    obtain ⟨d, hd, hkept⟩ := eq_firstOf_of_mem_collapse (mem_of_firstOf hfirst)
    have hown : kept.declaredBy = owner := by
      rw [hkept, Declared.ignoreIf_declaredBy]
      exact hl d (List.mem_append_left _ (mem_of_firstOf hd))
    exact absurd hown hclash.foreign

end Composed

end ContentModels
