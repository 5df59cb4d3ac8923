import ContentModels.Plan.Composition
import Mathlib.Data.List.Induction

/-!
# Merging declarations

Declarations are merged one after the other, and a type that is composed with others merges lists
that were merged before. The laws here say that this makes no difference: merging a merged list is
merging the list that it was made of.

## Main definitions

* `absorb` — adds one declaration, where the first of a handle stays and ignoring sticks.
* `collapse` — merges a list of declarations.

## Main statements

* `foldl_absorb_collapse` — merged lists may be merged again.
* `Composed.addAll_declared` — what is collected is what merging gives.
* `handles_collapse` — the handles of a merged list, in the order of their first occurrences.
-/

namespace ContentModels

/-- The result of a computation that may fail and that goes on after another one. -/
theorem Except.bind_ok_iff {ε α β : Type} {x : Except ε α} {f : α → Except ε β} {b : β} :
    (x >>= f) = .ok b ↔ ∃ a, x = .ok a ∧ f a = .ok b := by
  cases x <;> simp [bind, Except.bind]

/-! ## Adding one declaration -/

/-- Adds a declaration behind the others if its handle is new. Otherwise the first one of the handle
stays, and is ignored if either of them is. -/
def absorb : List Declared → Declared → List Declared
  | [], d => [d]
  | e :: rest, d =>
    if e.property.handle = d.property.handle then e.ignoreIf d.property.ignored :: rest
    else e :: absorb rest d

/-- The handles that are declared. -/
def handles (l : List Declared) : List String := l.map (·.property.handle)

@[simp] theorem handles_nil : handles [] = [] := rfl

@[simp] theorem handles_cons (d : Declared) (l : List Declared) :
    handles (d :: l) = d.property.handle :: handles l := rfl

@[simp] theorem handles_append (l m : List Declared) : handles (l ++ m) = handles l ++ handles m :=
  List.map_append

@[simp] theorem Declared.ignoreIf_handle (d : Declared) (b : Bool) :
    (d.ignoreIf b).property.handle = d.property.handle := rfl

@[simp] theorem Declared.ignoreIf_ignored (d : Declared) (b : Bool) :
    (d.ignoreIf b).property.ignored = (d.property.ignored || b) := rfl

@[simp] theorem Declared.ignoreIf_valueType (d : Declared) (b : Bool) :
    (d.ignoreIf b).property.valueType = d.property.valueType := rfl

@[simp] theorem Declared.ignoreIf_declaredBy (d : Declared) (b : Bool) :
    (d.ignoreIf b).declaredBy = d.declaredBy := rfl

theorem Declared.ignoreIf_ignoreIf (d : Declared) (a b : Bool) :
    (d.ignoreIf a).ignoreIf b = d.ignoreIf (a || b) := by
  simp [ignoreIf, Bool.or_assoc]

theorem absorb_of_new {l : List Declared} {d : Declared} (h : d.property.handle ∉ handles l) :
    absorb l d = l ++ [d] := by
  induction l with
  | nil => rfl
  | cons e rest ih =>
    simp only [handles_cons, List.mem_cons, not_or] at h
    rw [absorb, if_neg (Ne.symm h.1), ih h.2, List.cons_append]

/-- A handle that is there already is not added again. -/
theorem handles_absorb_of_mem {l : List Declared} {d : Declared}
    (h : d.property.handle ∈ handles l) : handles (absorb l d) = handles l := by
  induction l with
  | nil => simp at h
  | cons e rest ih =>
    by_cases he : e.property.handle = d.property.handle
    · simp [absorb, he]
    · simp only [handles_cons, List.mem_cons, Ne.symm he, false_or] at h
      simp [absorb, he, ih h]

theorem mem_handles_absorb {l : List Declared} {d : Declared} {handle : String} :
    handle ∈ handles (absorb l d) ↔ handle ∈ handles l ∨ handle = d.property.handle := by
  by_cases h : d.property.handle ∈ handles l
  · rw [handles_absorb_of_mem h]
    exact ⟨.inl, fun h' => h'.elim id fun heq => heq ▸ h⟩
  · simp [absorb_of_new h]

/-! ## Two declarations in a row -/

/-- The second of two declarations of one handle may be added to the first one beforehand. -/
theorem absorb_absorb_same {l : List Declared} {d e : Declared}
    (h : d.property.handle = e.property.handle) :
    absorb (absorb l d) e = absorb l (d.ignoreIf e.property.ignored) := by
  induction l with
  | nil => simp [absorb, h]
  | cons c rest ih =>
    by_cases hc : c.property.handle = d.property.handle
    · simp [absorb, hc, h, Declared.ignoreIf_ignoreIf]
    · simp [absorb, hc, ← h, ih]

/-- A declaration of a handle that is there already may be added later. -/
theorem absorb_comm {l : List Declared} {d e : Declared} (h : d.property.handle ∈ handles l) :
    absorb (absorb l d) e = absorb (absorb l e) d := by
  induction l with
  | nil => simp at h
  | cons c rest ih =>
    by_cases hd : c.property.handle = d.property.handle
    · by_cases he : d.property.handle = e.property.handle
      · simp [absorb, hd, he, Declared.ignoreIf_ignoreIf, Bool.or_comm]
      · simp [absorb, hd, he]
    · simp only [handles_cons, List.mem_cons, Ne.symm hd, false_or] at h
      by_cases he : c.property.handle = e.property.handle
      · have hed : ¬e.property.handle = d.property.handle := fun h => hd (he.trans h)
        simp [absorb, he, hed]
      · simp [absorb, hd, he, ih h]

theorem foldl_absorb_comm {l : List Declared} {d : Declared} (h : d.property.handle ∈ handles l)
    (m : List Declared) : m.foldl absorb (absorb l d) = absorb (m.foldl absorb l) d := by
  induction m generalizing l with
  | nil => rfl
  | cons e rest ih =>
    rw [List.foldl_cons, List.foldl_cons, absorb_comm h]
    exact ih (mem_handles_absorb.2 (.inl h))

/-! ## Merging a list -/

/-- Merges declarations: the first one of each handle stays, in the order of the list, and is
ignored if any of the handle is. -/
def collapse (l : List Declared) : List Declared := l.foldl absorb []

theorem collapse_concat (l : List Declared) (d : Declared) :
    collapse (l ++ [d]) = absorb (collapse l) d := by
  simp [collapse]

/-- Adding one more declaration to a merged list before or after that list is merged with others is
the same. -/
theorem foldl_absorb_absorb (l m : List Declared) (d : Declared) :
    (absorb m d).foldl absorb l = absorb (m.foldl absorb l) d := by
  by_cases h : d.property.handle ∈ handles m
  · induction m generalizing l with
    | nil => simp at h
    | cons e rest ih =>
      by_cases he : e.property.handle = d.property.handle
      · rw [absorb, if_pos he, List.foldl_cons, List.foldl_cons, ← absorb_absorb_same he]
        exact foldl_absorb_comm (mem_handles_absorb.2 (.inr he.symm)) rest
      · simp only [handles_cons, List.mem_cons, Ne.symm he, false_or] at h
        rw [absorb, if_neg he, List.foldl_cons, List.foldl_cons]
        exact ih _ h
  · simp [absorb_of_new h]

/-- Merging a merged list is merging the list that it was made of. -/
theorem foldl_absorb_collapse (l m : List Declared) :
    (collapse m).foldl absorb l = m.foldl absorb l := by
  induction m using List.reverseRecOn with
  | nil => rfl
  | append_singleton m d ih => rw [collapse_concat, foldl_absorb_absorb, ih, List.foldl_append]; rfl

/-! ## What a merged list holds -/

theorem mem_handles_collapse {l : List Declared} {handle : String} :
    handle ∈ handles (collapse l) ↔ handle ∈ handles l := by
  induction l using List.reverseRecOn with
  | nil => rfl
  | append_singleton l d ih => simp [collapse_concat, mem_handles_absorb, ih]

/-- A merged list has the handles in the order of their first occurrences. -/
theorem handles_collapse (l : List Declared) : handles (collapse l) = (handles l).eraseDups := by
  induction l using List.reverseRecOn with
  | nil => rfl
  | append_singleton l d ih =>
    rw [collapse_concat, handles_append, List.eraseDups_append, ← ih]
    by_cases h : d.property.handle ∈ handles l
    · rw [handles_absorb_of_mem (mem_handles_collapse.2 h)]
      simp [List.removeAll, h]
    · rw [absorb_of_new (mem_handles_collapse.not.2 h)]
      simp [List.removeAll, h, List.eraseDups_cons]

theorem nodup_handles_absorb {l : List Declared} (h : (handles l).Nodup) (d : Declared) :
    (handles (absorb l d)).Nodup := by
  by_cases hd : d.property.handle ∈ handles l
  · rwa [handles_absorb_of_mem hd]
  · rw [absorb_of_new hd, handles_append]
    refine List.nodup_append.2 ⟨h, by simp, ?_⟩
    rintro a ha b hb rfl
    rw [handles_cons, handles_nil, List.mem_singleton] at hb
    exact hd (hb ▸ ha)

/-- A merged list has every handle once. -/
theorem nodup_handles_collapse (l : List Declared) : (handles (collapse l)).Nodup := by
  induction l using List.reverseRecOn with
  | nil => exact List.nodup_nil
  | append_singleton l d ih => exact collapse_concat l d ▸ nodup_handles_absorb ih d

/-- What is in a list after a declaration of a handle that is there already was added. -/
theorem mem_absorb_of_mem {l : List Declared} {d e : Declared} (hl : (handles l).Nodup)
    (hd : d.property.handle ∈ handles l) (he : e ∈ absorb l d) :
    (e ∈ l ∧ e.property.handle ≠ d.property.handle) ∨
      ∃ c ∈ l, c.property.handle = d.property.handle ∧ e = c.ignoreIf d.property.ignored := by
  induction l with
  | nil => simp at hd
  | cons c rest ih =>
    obtain ⟨hc, hrest⟩ := List.nodup_cons.1 hl
    by_cases hcd : c.property.handle = d.property.handle
    · rw [absorb, if_pos hcd] at he
      rcases List.mem_cons.1 he with rfl | he
      · exact .inr ⟨c, by simp, hcd, rfl⟩
      · refine .inl ⟨by simp [he], fun h => hc ?_⟩
        exact List.mem_map.2 ⟨e, he, h.trans hcd.symm⟩
    · simp only [handles_cons, List.mem_cons, Ne.symm hcd, false_or] at hd
      rw [absorb, if_neg hcd] at he
      rcases List.mem_cons.1 he with rfl | he
      · exact .inl ⟨by simp, hcd⟩
      · rcases ih hrest hd he with ⟨h, hne⟩ | ⟨c', h, hc', heq⟩
        · exact .inl ⟨by simp [h], hne⟩
        · exact .inr ⟨c', by simp [h], hc', heq⟩

/-- The first declaration of a handle in a list. -/
def firstOf (l : List Declared) (handle : String) : Option Declared :=
  l.find? fun d => d.property.handle == handle

/-- Whether any declaration of a handle in a list is ignored. -/
def ignoresHandle (l : List Declared) (handle : String) : Bool :=
  l.any fun d => d.property.handle == handle && d.property.ignored

theorem firstOf_eq_none {l : List Declared} {handle : String} :
    firstOf l handle = none ↔ handle ∉ handles l := by
  simp [firstOf, handles]

theorem firstOf_append_of_some {l : List Declared} {handle : String} {d : Declared}
    (h : firstOf l handle = some d) (m : List Declared) : firstOf (l ++ m) handle = some d := by
  simp only [firstOf] at h
  simp [firstOf, h]

theorem firstOf_concat_of_new {l : List Declared} {d : Declared}
    (h : d.property.handle ∉ handles l) : firstOf (l ++ [d]) d.property.handle = some d := by
  have hnone := firstOf_eq_none.2 h
  simp only [firstOf] at hnone
  simp [firstOf, hnone]

theorem ignoresHandle_concat (l : List Declared) (d : Declared) (handle : String) :
    ignoresHandle (l ++ [d]) handle =
      (ignoresHandle l handle || (d.property.handle == handle && d.property.ignored)) := by
  simp [ignoresHandle]

theorem ignoresHandle_of_new {l : List Declared} {handle : String} (h : handle ∉ handles l) :
    ignoresHandle l handle = false := by
  simp only [handles, List.mem_map, not_exists, not_and] at h
  simp only [ignoresHandle, List.any_eq_false]
  intro d hd
  simp [h d hd]

/-- Each declaration of a merged list is the first one of its handle, and is ignored if any of the
handle is. -/
theorem eq_firstOf_of_mem_collapse {l : List Declared} {e : Declared} (he : e ∈ collapse l) :
    ∃ d, firstOf l e.property.handle = some d ∧
      e = d.ignoreIf (ignoresHandle l e.property.handle) := by
  induction l using List.reverseRecOn generalizing e with
  | nil => simp [collapse] at he
  | append_singleton l d ih =>
    rw [collapse_concat] at he
    by_cases hd : d.property.handle ∈ handles l
    · rcases mem_absorb_of_mem (nodup_handles_collapse l) (mem_handles_collapse.2 hd) he with
        ⟨h, hne⟩ | ⟨c, h, hc, rfl⟩
      · obtain ⟨f, hf, heq⟩ := ih h
        refine ⟨f, firstOf_append_of_some hf _, ?_⟩
        rwa [ignoresHandle_concat, beq_false_of_ne hne.symm, Bool.false_and, Bool.or_false]
      · obtain ⟨f, hf, heq⟩ := ih h
        refine ⟨f, firstOf_append_of_some hf _, ?_⟩
        rw [Declared.ignoreIf_handle, ignoresHandle_concat, hc, beq_self_eq_true, Bool.true_and,
          ← Declared.ignoreIf_ignoreIf, ← hc, ← heq]
    · rw [absorb_of_new (mem_handles_collapse.not.2 hd)] at he
      rcases List.mem_append.1 he with h | h
      · obtain ⟨f, hf, heq⟩ := ih h
        have hne : d.property.handle ≠ e.property.handle := fun heq' =>
          hd (heq' ▸ mem_handles_collapse.1 (List.mem_map.2 ⟨e, h, rfl⟩))
        refine ⟨f, firstOf_append_of_some hf _, ?_⟩
        rwa [ignoresHandle_concat, beq_false_of_ne hne, Bool.false_and, Bool.or_false]
      · obtain rfl := List.mem_singleton.1 h
        refine ⟨e, firstOf_concat_of_new hd, ?_⟩
        rw [ignoresHandle_concat, ignoresHandle_of_new hd]
        simp [Declared.ignoreIf]

/-! ## Collecting is merging -/

theorem mergeInto_eq_absorb {owner : String} {d : Declared} {l l' : List Declared}
    {warnings : List Diagnostic} (h : mergeInto owner d l = .ok (l', warnings)) :
    l' = absorb l d := by
  induction l generalizing l' warnings with
  | nil =>
    simp only [mergeInto, Except.ok.injEq, Prod.mk.injEq] at h
    exact h.1.symm
  | cons e rest ih =>
    rw [mergeInto] at h
    split at h
    · next he =>
      obtain ⟨w, -, h⟩ := Except.bind_ok_iff.1 h
      simp only [pure, Except.pure, Except.ok.injEq, Prod.mk.injEq] at h
      rw [absorb, if_pos (by simpa using he), h.1]
    · next he =>
      obtain ⟨⟨m, w⟩, hm, h⟩ := Except.bind_ok_iff.1 h
      simp only [pure, Except.pure, Except.ok.injEq, Prod.mk.injEq] at h
      rw [absorb, if_neg (by simpa using he), ← ih hm, h.1]

theorem Composed.add_declared {c c' : Composed} {owner : String} {d : Declared}
    (h : c.add owner d = .ok c') : c'.declared = absorb c.declared d := by
  obtain ⟨⟨l, w⟩, hl, h⟩ := Except.bind_ok_iff.1 h
  simp only [pure, Except.pure, Except.ok.injEq] at h
  rw [← h, ← mergeInto_eq_absorb hl]

/-- What is collected from a list is what merging gives. -/
theorem Composed.addAll_declared {c c' : Composed} {owner : String} {l : List Declared}
    (h : c.addAll owner l = .ok c') : c'.declared = l.foldl absorb c.declared := by
  induction l generalizing c with
  | nil =>
    simp only [addAll, Except.ok.injEq] at h
    rw [← h, List.foldl_nil]
  | cons d rest ih =>
    obtain ⟨c₁, h₁, h⟩ := Except.bind_ok_iff.1 h
    rw [ih h, add_declared h₁, List.foldl_cons]

end ContentModels
