import ContentModels.Sorted.Set
import Mathlib.Data.List.Induction

/-!
# Entries of sorted maps

Which entries a map has after it was changed, and when two maps are the same.

## Main statements

* `SortedMap.ext_entries` — two maps with the same entries are the same map.
* `SortedMap.ext_get?` — as are two that find the same, if the order tells all keys apart.
* `SortedMap.mem_insert_of_ne` — setting a value leaves the other entries alone.
* `SortedMap.perm_insert_of_new` — setting a value at a new key adds one entry.
* `SortedMap.erase_insert_of_new` — which can be taken away again.
* `SortedMap.entries_insert_of_get?` — setting a value at a key that is there changes one entry.
* `SortedMap.get?_foldl_alter` — what is found after values were set by a list of entries.
* `SortedSet.ext_contains` — two sets that hold the same are the same set.
-/

namespace ContentModels

variable {κ ν : Type} [Ord κ]

theorem mem_alterEntries_of_ne [Std.TransOrd κ] {k : κ} {f : Option ν → ν} {l : List (κ × ν)}
    {e : κ × ν} (h : compare k e.1 ≠ .eq) : e ∈ alterEntries k f l ↔ e ∈ l := by
  have hnew (v : ν) : e ≠ (k, v) := by
    rintro rfl
    exact h Std.ReflCmp.compare_self
  induction l with
  | nil => simp [alterEntries, hnew]
  | cons d rest ih =>
    rw [alterEntries]
    split
    · simp [hnew]
    · next heq =>
      have hold (v : ν) : e ≠ (d.1, v) := by
        rintro rfl
        exact h heq
      simp [hold]
    · simp [ih]

/-- Setting a value at a new key adds one entry. -/
theorem perm_alterEntries_of_new {k : κ} {f : Option ν → ν} {l : List (κ × ν)}
    (h : ∀ e ∈ l, compare k e.1 ≠ .eq) : (alterEntries k f l).Perm ((k, f none) :: l) := by
  induction l with
  | nil => exact .refl _
  | cons d rest ih =>
    obtain ⟨hd, hrest⟩ := List.forall_mem_cons.1 h
    rw [alterEntries]
    split
    · exact .refl _
    · next heq => exact absurd heq hd
    · exact ((ih hrest).cons d).trans (.swap _ _ _)

/-- Setting a value at a key that is there changes that entry where it stands. -/
theorem alterEntries_of_mem [Std.TransOrd κ] {k : κ} {l : List (κ × ν)} (h : InOrder l)
    {e : κ × ν} (he : e ∈ l) (hk : compare k e.1 = .eq) : ∃ before after, l = before ++ e :: after ∧
      ∀ f : Option ν → ν, alterEntries k f l = before ++ (e.1, f (some e.2)) :: after := by
  induction l with
  | nil => cases he
  | cons d rest ih =>
    obtain ⟨first, more⟩ := List.pairwise_cons.1 h
    rcases List.mem_cons.1 he with rfl | he
    · exact ⟨[], rest, rfl, fun f => by rw [alterEntries, hk]; rfl⟩
    · have hgt : compare k d.1 = .gt := by
        rw [Std.OrientedCmp.gt_iff_lt]
        exact Std.TransCmp.lt_of_lt_of_eq (first e he) (Std.OrientedCmp.eq_symm hk)
      obtain ⟨before, after, rfl, halter⟩ := ih more he
      exact ⟨d :: before, after, rfl, fun f => by rw [alterEntries, hgt, halter]; rfl⟩

namespace SortedMap

@[simp] theorem entries_empty : (∅ : SortedMap κ ν).entries = [] := rfl

@[simp] theorem get?_empty (k : κ) : (∅ : SortedMap κ ν).get? k = none := rfl

theorem mem_keys {m : SortedMap κ ν} {k : κ} : k ∈ m.keys ↔ ∃ v, (k, v) ∈ m.entries := by
  simp [keys]

theorem mem_values {m : SortedMap κ ν} {v : ν} : v ∈ m.values ↔ ∃ k, (k, v) ∈ m.entries := by
  simp [values]

theorem mem_filter {m : SortedMap κ ν} {p : κ → ν → Bool} {e : κ × ν} :
    e ∈ (m.filter p).entries ↔ e ∈ m.entries ∧ p e.1 e.2 = true :=
  List.mem_filter

theorem values_filter (m : SortedMap κ ν) (p : ν → Bool) :
    (m.filter fun _ v => p v).values = m.values.filter p := by
  rw [values, values, List.filter_map]
  rfl

theorem contains_eq_true_iff {m : SortedMap κ ν} {k : κ} :
    m.contains k = true ↔ ∃ k' ∈ m.keys, compare k k' = .eq := by
  simp [contains, keys]

theorem mem_erase {m : SortedMap κ ν} {k : κ} {e : κ × ν} :
    e ∈ (m.erase k).entries ↔ e ∈ m.entries ∧ compare k e.1 ≠ .eq := by
  simp [erase, mem_filter]

/-- A key that was taken away is not there. -/
theorem contains_erase_self (m : SortedMap κ ν) (k : κ) : (m.erase k).contains k = false := by
  rw [Bool.eq_false_iff]
  intro h
  obtain ⟨k', hk', heq⟩ := contains_eq_true_iff.1 h
  obtain ⟨v, hmem⟩ := mem_keys.1 hk'
  exact (mem_erase.1 hmem).2 heq

theorem get?_eq_none_iff {m : SortedMap κ ν} {k : κ} :
    m.get? k = none ↔ ∀ e ∈ m.entries, compare k e.1 ≠ .eq := by
  simp [get?]

theorem get?_cons {e : κ × ν} {l : List (κ × ν)} (h : InOrder (e :: l)) (k : κ) :
    (⟨e :: l, h⟩ : SortedMap κ ν).get? k =
      if compare k e.1 = .eq then some e.2 else (⟨l, h.of_cons⟩ : SortedMap κ ν).get? k := by
  rw [get?, get?, List.find?_cons]
  cases compare k e.1 <;> rfl

theorem get?_eq_none_of_contains {m : SortedMap κ ν} {k : κ} (h : m.contains k = false) :
    m.get? k = none := by
  refine get?_eq_none_iff.2 fun e he heq => ?_
  rw [contains_eq_true_iff.2 ⟨e.1, mem_keys.2 ⟨e.2, he⟩, heq⟩] at h
  cases h

theorem contains_eq_isSome (m : SortedMap κ ν) (k : κ) : m.contains k = (m.get? k).isSome := by
  rw [contains, get?, Option.isSome_map, List.isSome_find?]

/-- The keys are in order. -/
theorem pairwise_keys (m : SortedMap κ ν) : m.keys.Pairwise fun a b => compare a b = .lt :=
  List.pairwise_map.2 m.inOrder

/-- No two keys count as the same. -/
theorem pairwise_ne (m : SortedMap κ ν) : m.entries.Pairwise fun d e => compare d.1 e.1 ≠ .eq :=
  m.inOrder.imp fun hlt heq => by simp [hlt] at heq

variable [Std.TransOrd κ]

theorem nodup_entries (m : SortedMap κ ν) : m.entries.Nodup := by
  refine m.inOrder.imp ?_
  rintro d e hlt rfl
  simp [Std.ReflCmp.compare_self] at hlt

/-- Two maps with the same entries are the same map. -/
theorem ext_entries {m n : SortedMap κ ν} (h : ∀ e, e ∈ m.entries ↔ e ∈ n.entries) : m = n := by
  refine ext (List.Perm.eq_of_pairwise ?_ m.inOrder n.inOrder ?_)
  · intro d e _ _ hde hed
    rw [Std.OrientedOrd.eq_swap, hed] at hde
    cases hde
  · exact (List.perm_ext_iff_of_nodup m.nodup_entries n.nodup_entries).2 h

/-- Two entries whose keys count as the same are the same entry. -/
theorem eq_of_compare_eq (m : SortedMap κ ν) {d e : κ × ν} (hd : d ∈ m.entries)
    (he : e ∈ m.entries) (h : compare d.1 e.1 = .eq) : d = e := by
  refine List.Pairwise.forall_of_forall_of_flip (R := fun d e => compare d.1 e.1 = .eq → d = e)
    (fun _ _ _ => rfl) (m.inOrder.imp ?_) (m.inOrder.imp ?_) hd he h
  · intro d e hlt heq
    simp [hlt] at heq
  · intro d e hlt heq
    simp [Std.OrientedCmp.eq_comm.1 heq] at hlt

/-! ## Looking up -/

theorem get?_eq_some_iff {m : SortedMap κ ν} {k : κ} {v : ν} :
    m.get? k = some v ↔ ∃ k', (k', v) ∈ m.entries ∧ compare k k' = .eq := by
  rw [get?, Option.map_eq_some_iff]
  constructor
  · rintro ⟨⟨k', v'⟩, h, rfl⟩
    exact ⟨k', List.mem_of_find?_eq_some h, by simpa using List.find?_some h⟩
  · rintro ⟨k', hmem, hk⟩
    obtain ⟨e, he⟩ : ∃ e, (m.entries.find? fun e => compare k e.1 == .eq) = some e :=
      Option.isSome_iff_exists.1 (List.find?_isSome.2 ⟨_, hmem, by simpa using hk⟩)
    have hke : compare k e.1 = .eq := by simpa using List.find?_some he
    have heq := m.eq_of_compare_eq (List.mem_of_find?_eq_some he) hmem
      (Std.TransCmp.eq_trans (Std.OrientedCmp.eq_symm hke) hk)
    exact ⟨e, he, heq ▸ rfl⟩

theorem get?_of_mem {m : SortedMap κ ν} {e : κ × ν} (h : e ∈ m.entries) :
    m.get? e.1 = some e.2 :=
  get?_eq_some_iff.2 ⟨e.1, h, Std.ReflCmp.compare_self⟩

/-- Keys that count as the same find the same. -/
theorem get?_congr {m : SortedMap κ ν} {k k' : κ} (h : compare k k' = .eq) :
    m.get? k = m.get? k' := by
  refine Option.ext fun v => ?_
  rw [get?_eq_some_iff, get?_eq_some_iff]
  constructor
  · exact fun ⟨d, hmem, hd⟩ => ⟨d, hmem, Std.TransCmp.eq_trans (Std.OrientedCmp.eq_symm h) hd⟩
  · exact fun ⟨d, hmem, hd⟩ => ⟨d, hmem, Std.TransCmp.eq_trans h hd⟩

/-- Two maps that find the same are the same map, if the order tells all keys apart. -/
theorem ext_get? [Std.LawfulEqOrd κ] {m n : SortedMap κ ν} (h : ∀ k, m.get? k = n.get? k) :
    m = n := by
  have mem_iff (l : SortedMap κ ν) (e : κ × ν) : e ∈ l.entries ↔ l.get? e.1 = some e.2 := by
    refine ⟨get?_of_mem, fun hget => ?_⟩
    obtain ⟨k, hmem, hk⟩ := get?_eq_some_iff.1 hget
    obtain rfl := Std.LawfulEqCmp.compare_eq_iff_eq.1 hk
    exact hmem
  exact ext_entries fun e => by rw [mem_iff, mem_iff, h]

/-! ## Changing -/

theorem get?_insert (m : SortedMap κ ν) (k k' : κ) (v : ν) :
    (m.insert k v).get? k' = if compare k' k = .eq then some v else m.get? k' :=
  get?_alter ..

/-- Setting values at different keys can be done in any order. -/
theorem insert_comm [Std.LawfulEqOrd κ] {m : SortedMap κ ν} {k k' : κ} (h : k ≠ k') (v w : ν) :
    (m.insert k' w).insert k v = (m.insert k v).insert k' w := by
  refine ext_get? fun d => ?_
  simp only [get?_insert, Std.LawfulEqCmp.compare_eq_iff_eq]
  grind

/-- Of two values that are set at one key the later one counts. -/
theorem insert_insert [Std.LawfulEqOrd κ] (m : SortedMap κ ν) (k : κ) (v w : ν) :
    (m.insert k v).insert k w = m.insert k w := by
  refine ext_get? fun d => ?_
  simp only [get?_insert]
  grind

/-- Setting a value at a new key adds one entry. -/
theorem perm_insert_of_new {m : SortedMap κ ν} {k : κ} (h : m.get? k = none) (v : ν) :
    (m.insert k v).entries.Perm ((k, v) :: m.entries) :=
  perm_alterEntries_of_new (get?_eq_none_iff.1 h)

/-- Setting a value at a key that has one changes that entry where it stands. -/
theorem entries_insert_of_get? {m : SortedMap κ ν} {k : κ} {w : ν} (h : m.get? k = some w) :
    ∃ before after k', m.entries = before ++ (k', w) :: after ∧
      ∀ v, (m.insert k v).entries = before ++ (k', v) :: after := by
  obtain ⟨k', hmem, hk⟩ := get?_eq_some_iff.1 h
  obtain ⟨before, after, hentries, halter⟩ := alterEntries_of_mem m.inOrder hmem hk
  exact ⟨before, after, k', hentries, fun v => halter fun _ => v⟩

theorem values_insert_of_get? {m : SortedMap κ ν} {k : κ} {w : ν} (h : m.get? k = some w) :
    ∃ before after, m.values = before ++ w :: after ∧
      ∀ v, (m.insert k v).values = before ++ v :: after := by
  obtain ⟨before, after, k', hentries, hinsert⟩ := entries_insert_of_get? h
  exact ⟨before.map (·.2), after.map (·.2), by simp [values, hentries],
    fun v => by simp [values, hinsert]⟩

/-- Setting a value at a key that has one adds no entry. -/
theorem length_insert_of_get? {m : SortedMap κ ν} {k : κ} {w : ν} (h : m.get? k = some w) (v : ν) :
    (m.insert k v).entries.length = m.entries.length := by
  obtain ⟨before, after, k', hentries, hinsert⟩ := entries_insert_of_get? h
  simp [hentries, hinsert]

/-- Setting values at new and different keys adds one entry each. -/
theorem perm_foldl_insert {l : List (κ × ν)} (h : l.Pairwise fun d e => compare d.1 e.1 ≠ .eq)
    {m : SortedMap κ ν} (hnew : ∀ e ∈ l, m.get? e.1 = none) :
    (l.foldl (fun m e => m.insert e.1 e.2) m).entries.Perm (m.entries ++ l) := by
  induction l generalizing m with
  | nil => simp
  | cons e rest ih =>
    obtain ⟨hfirst, hrest⟩ := List.pairwise_cons.1 h
    have hnext : ∀ d ∈ rest, (m.insert e.1 e.2).get? d.1 = none := by
      intro d hd
      rw [get?_insert, if_neg fun heq => hfirst d hd (Std.OrientedCmp.eq_symm heq)]
      exact hnew d (List.mem_cons_of_mem _ hd)
    have hperm := perm_insert_of_new (hnew e List.mem_cons_self) e.2
    exact (ih hrest hnext).trans ((hperm.append_right rest).trans List.perm_middle.symm)

/-- The map of a list of entries with different keys has these entries. -/
theorem perm_ofList {l : List (κ × ν)} (h : l.Pairwise fun d e => compare d.1 e.1 ≠ .eq) :
    (ofList l).entries.Perm l :=
  perm_foldl_insert h fun _ _ => rfl

/-- Setting values by a list of entries: what is in the list is set there, and nothing else is. -/
theorem get?_foldl_alter {ω : Type} {l : List (κ × ω)} (h : InOrder l)
    {f : κ → ω → Option ν → ν} (hf : ∀ k k', compare k k' = .eq → f k = f k') (m : SortedMap κ ν)
    (k : κ) : (l.foldl (fun m e => m.alter e.1 (f e.1 e.2)) m).get? k =
      ((⟨l, h⟩ : SortedMap κ ω).get? k).elim (m.get? k) fun w => some (f k w (m.get? k)) := by
  induction l generalizing m with
  | nil => rfl
  | cons e rest ih =>
    obtain ⟨first, later⟩ := List.pairwise_cons.1 h
    rw [List.foldl_cons, ih later, get?_alter, get?_cons]
    by_cases hk : compare k e.1 = .eq
    · have hnone : (⟨rest, later⟩ : SortedMap κ ω).get? k = none := by
        refine get?_eq_none_iff.2 fun e' he' heq => ?_
        have hlt := first e' he'
        rw [Std.TransCmp.eq_trans (Std.OrientedCmp.eq_symm hk) heq] at hlt
        cases hlt
      have hget : m.get? e.1 = m.get? k := get?_congr (Std.OrientedCmp.eq_symm hk)
      rw [hnone, if_pos hk, if_pos hk, hget, hf _ _ hk, Option.elim_none, Option.elim_some]
    · rw [if_neg hk, if_neg hk]

/-- Setting the values of a list of entries: what is in the list is found there. -/
theorem get?_foldl_insert {l : List (κ × ν)} (h : InOrder l) (m : SortedMap κ ν) (k : κ) :
    (l.foldl (fun m e => m.insert e.1 e.2) m).get? k =
      ((⟨l, h⟩ : SortedMap κ ν).get? k).or (m.get? k) := by
  refine (get?_foldl_alter h (f := fun _ v _ => v) (fun _ _ _ => rfl) m k).trans ?_
  cases (⟨l, h⟩ : SortedMap κ ν).get? k <;> rfl

/-- A value that was set at a new key can be taken away again. -/
theorem erase_insert_of_new {m : SortedMap κ ν} {k : κ} (h : m.get? k = none) (v : ν) :
    (m.insert k v).erase k = m := by
  refine ext_entries fun e => ?_
  rw [mem_erase, (perm_insert_of_new h v).mem_iff, List.mem_cons]
  constructor
  · rintro ⟨rfl | he, hne⟩
    · exact absurd Std.ReflCmp.compare_self hne
    · exact he
  · exact fun he => ⟨.inr he, get?_eq_none_iff.1 h e he⟩

/-- A key is there because its value was set, or was there before. -/
theorem key_mem_insert {m : SortedMap κ ν} {k : κ} {v : ν} {e : κ × ν}
    (h : e ∈ (m.insert k v).entries) : e.1 = k ∨ ∃ d ∈ m.entries, d.1 = e.1 :=
  fst_mem_alterEntries h

theorem key_mem_ofList {l : List (κ × ν)} {e : κ × ν} (h : e ∈ (ofList l).entries) :
    ∃ d ∈ l, d.1 = e.1 := by
  induction l using List.reverseRecOn generalizing e with
  | nil => cases h
  | append_singleton l d ih =>
    rw [ofList, List.foldl_append] at h
    rcases key_mem_insert h with hk | ⟨d', hd', hk⟩
    · exact ⟨d, by simp, hk.symm⟩
    · obtain ⟨d'', hmem, hk'⟩ := ih hd'
      exact ⟨d'', List.mem_append_left _ hmem, hk'.trans hk⟩

/-- Setting a value leaves the entries of other keys alone. -/
theorem mem_insert_of_ne {m : SortedMap κ ν} {k : κ} {v : ν} {e : κ × ν}
    (h : compare k e.1 ≠ .eq) : e ∈ (m.insert k v).entries ↔ e ∈ m.entries :=
  mem_alterEntries_of_ne h

/-- The entry of the key whose value was set has that value. -/
theorem snd_eq_of_mem_insert {m : SortedMap κ ν} {k : κ} {v : ν} {e : κ × ν}
    (he : e ∈ (m.insert k v).entries) (h : compare k e.1 = .eq) : e.2 = v := by
  have := get?_of_mem he
  rw [get?_insert, if_pos (Std.OrientedCmp.eq_symm h)] at this
  exact (Option.some.inj this).symm

theorem mem_values_insert {m : SortedMap κ ν} {k : κ} {v w : ν} (h : w ∈ (m.insert k v).values) :
    w = v ∨ w ∈ m.values := by
  obtain ⟨k', hmem⟩ := mem_values.1 h
  by_cases hk : compare k k' = .eq
  · exact .inl (snd_eq_of_mem_insert hmem hk)
  · exact .inr (mem_values.2 ⟨k', (mem_insert_of_ne hk).1 hmem⟩)

end SortedMap

/-! ## Members of sets -/

namespace SortedSet

variable {α : Type} [Ord α] [Std.TransOrd α]

/-- No member is listed twice. -/
theorem nodup_toList (s : SortedSet α) : (toList s).Nodup := by
  refine s.pairwise_keys.imp ?_
  rintro a b hlt rfl
  simp [Std.ReflCmp.compare_self] at hlt

omit [Std.TransOrd α] in
/-- What a set holds is what is listed, if the order tells all members apart. -/
theorem mem_toList [Std.LawfulEqOrd α] {s : SortedSet α} {a : α} :
    a ∈ toList s ↔ s.contains a = true := by
  rw [SortedMap.contains_eq_true_iff]
  simp [toList]

/-- The set of the members of a list has those members and no others. -/
theorem mem_toList_ofList [Std.LawfulEqOrd α] {l : List α} {a : α} :
    a ∈ toList (ofList l) ↔ a ∈ l := by
  rw [mem_toList, ofList, contains_addAll, Bool.or_eq_true, List.any_eq_true]
  simp [SortedMap.contains]

omit [Std.TransOrd α] in
@[simp] theorem contains_empty (a : α) : (∅ : SortedSet α).contains a = false := rfl

@[simp] theorem contains_union (s t : SortedSet α) (a : α) :
    (s.union t).contains a = (s.contains a || t.contains a) := by
  rw [union, contains_addAll, toList, SortedMap.keys, List.any_map]
  rfl

/-- Two sets that hold the same are the same set, if the order tells all members apart. -/
theorem ext_contains [Std.LawfulEqOrd α] {s t : SortedSet α}
    (h : ∀ a, s.contains a = t.contains a) : s = t := by
  refine SortedMap.ext_entries fun e => ?_
  have hmem (u : SortedSet α) : e ∈ u.entries ↔ u.contains e.1 = true := by
    rw [← mem_toList, toList, SortedMap.mem_keys]
    exact ⟨fun he => ⟨e.2, he⟩, fun ⟨_, he⟩ => he⟩
  rw [hmem, hmem, h]

end SortedSet

end ContentModels
