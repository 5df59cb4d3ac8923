/-!
# Maps in the order of their keys

A finite map is held as the list of its entries in increasing order of keys, so that two maps with
the same entries are the same map.

## Main definitions

* `SortedMap` — the type, whose order of entries is part of it.
* `SortedMap.alter` — sets the value at a key, given the one that was there.
* `SortedMap.get?` — the value at a key.

## Main statements

* `SortedMap.get?_alter` — what is found after a value was set.
* `SortedMap.get?_erase` — what is found after a key was taken away.
-/

namespace ContentModels

variable {κ ν ω : Type}

/-- Sets the value at a key in a list of entries that is in order. A key that is there already stays
as it is written. -/
def alterEntries [Ord κ] (k : κ) (f : Option ν → ν) : List (κ × ν) → List (κ × ν)
  | [] => [(k, f none)]
  | (k', v) :: rest =>
    match compare k k' with
    | .lt => (k, f none) :: (k', v) :: rest
    | .eq => (k', f (some v)) :: rest
    | .gt => (k', v) :: alterEntries k f rest

theorem fst_mem_alterEntries [Ord κ] {k : κ} {f : Option ν → ν} {l : List (κ × ν)} {e : κ × ν}
    (h : e ∈ alterEntries k f l) : e.1 = k ∨ ∃ e' ∈ l, e'.1 = e.1 := by
  induction l with
  | nil => simp_all [alterEntries]
  | cons d rest ih =>
    obtain ⟨k', v⟩ := d
    rw [alterEntries] at h
    split at h
    · rcases List.mem_cons.1 h with rfl | h
      · exact .inl rfl
      · exact .inr ⟨e, h, rfl⟩
    · rcases List.mem_cons.1 h with rfl | h
      · exact .inr ⟨(k', v), by simp, rfl⟩
      · exact .inr ⟨e, by simp [h], rfl⟩
    · rcases List.mem_cons.1 h with rfl | h
      · exact .inr ⟨(k', v), by simp, rfl⟩
      · rcases ih h with h | ⟨e', h, he⟩
        · exact .inl h
        · exact .inr ⟨e', by simp [h], he⟩

/-- Entries are in order when every key is less than the ones behind it. -/
abbrev InOrder [Ord κ] (l : List (κ × ν)) : Prop := l.Pairwise fun a b => compare a.1 b.1 = .lt

theorem InOrder.alterEntries [Ord κ] [Std.TransOrd κ] {k : κ} {f : Option ν → ν}
    {l : List (κ × ν)} (h : InOrder l) : InOrder (alterEntries k f l) := by
  induction l with
  | nil => simp [ContentModels.alterEntries]
  | cons d rest ih =>
    obtain ⟨k', v⟩ := d
    have ⟨first, more⟩ := List.pairwise_cons.1 h
    rw [ContentModels.alterEntries]
    split
    · next hlt =>
      refine List.pairwise_cons.2 ⟨fun e he => ?_, h⟩
      rcases List.mem_cons.1 he with rfl | he
      · exact hlt
      · exact Std.TransCmp.lt_trans hlt (first e he)
    · exact List.pairwise_cons.2 ⟨first, more⟩
    · next hgt =>
      refine List.pairwise_cons.2 ⟨fun e he => ?_, ih more⟩
      rcases fst_mem_alterEntries he with heq | ⟨e', he', heq⟩
      · simpa [heq] using Std.OrientedCmp.gt_iff_lt.1 hgt
      · simpa [← heq] using first e' he'

/-- A finite map as the list of its entries, in increasing order of keys. -/
structure SortedMap (κ ν : Type) [Ord κ] where
  entries : List (κ × ν)
  inOrder : InOrder entries

namespace SortedMap

variable [Ord κ]

instance : EmptyCollection (SortedMap κ ν) := ⟨[], .nil⟩

instance : Inhabited (SortedMap κ ν) := ⟨∅⟩

@[ext] theorem ext {m n : SortedMap κ ν} (h : m.entries = n.entries) : m = n := by
  cases m; cases n; simp_all

instance [DecidableEq κ] [DecidableEq ν] : DecidableEq (SortedMap κ ν) := fun m n =>
  decidable_of_iff (m.entries = n.entries) ⟨ext, fun h => h ▸ rfl⟩

/-- The keys, in order. -/
def keys (m : SortedMap κ ν) : List κ := m.entries.map (·.1)

/-- The values, in the order of their keys. -/
def values (m : SortedMap κ ν) : List ν := m.entries.map (·.2)

/-- The value at a key. -/
def get? (m : SortedMap κ ν) (k : κ) : Option ν :=
  (m.entries.find? fun e => compare k e.1 == .eq).map (·.2)

/-- Whether a key is there. -/
def contains (m : SortedMap κ ν) (k : κ) : Bool := m.entries.any fun e => compare k e.1 == .eq

/-- The map with every value changed. -/
def mapValues (m : SortedMap κ ν) (f : κ → ν → ω) : SortedMap κ ω where
  entries := m.entries.map fun e => (e.1, f e.1 e.2)
  inOrder := by simpa [InOrder, List.pairwise_map] using m.inOrder

/-- The map without the entries that fail a test. -/
def filter (m : SortedMap κ ν) (p : κ → ν → Bool) : SortedMap κ ν where
  entries := m.entries.filter fun e => p e.1 e.2
  inOrder := m.inOrder.sublist List.filter_sublist

variable [Std.TransOrd κ]

/-- Sets the value at a key, given the one that was there. -/
def alter (m : SortedMap κ ν) (k : κ) (f : Option ν → ν) : SortedMap κ ν :=
  ⟨alterEntries k f m.entries, m.inOrder.alterEntries⟩

/-- Sets the value at a key. -/
def insert (m : SortedMap κ ν) (k : κ) (v : ν) : SortedMap κ ν := m.alter k fun _ => v

/-- Sets the value at a key that has none. -/
def insertIfNew (m : SortedMap κ ν) (k : κ) (v : ν) : SortedMap κ ν := m.alter k (·.getD v)

/-- Changes the value at a key, or the default value if there is none. -/
def modify [Inhabited ν] (m : SortedMap κ ν) (k : κ) (f : ν → ν) : SortedMap κ ν :=
  m.alter k fun v => f (v.getD default)

/-- The map without a key. -/
def erase (m : SortedMap κ ν) (k : κ) : SortedMap κ ν := m.filter fun k' _ => compare k k' != .eq

/-- The map of a list of entries; of two with one key the later one counts. -/
def ofList (l : List (κ × ν)) : SortedMap κ ν := l.foldl (fun m e => m.insert e.1 e.2) ∅

/-- Looking up, over a list of entries. -/
theorem find?_alterEntries {k k' : κ} {f : Option ν → ν} {l : List (κ × ν)}
    (h : InOrder l) :
    ((alterEntries k f l).find? fun e => compare k' e.1 == .eq).map (·.2) =
      if compare k' k = .eq then
        some (f ((l.find? fun e => compare k e.1 == .eq).map (·.2)))
      else (l.find? fun e => compare k' e.1 == .eq).map (·.2) := by
  induction l with
  | nil => by_cases hk : compare k' k = .eq <;> simp [alterEntries, hk]
  | cons d rest ih =>
    obtain ⟨k₁, v⟩ := d
    have ⟨first, more⟩ := List.pairwise_cons.1 h
    rw [alterEntries]
    split
    · next hlt =>
      have hnone : (rest.find? fun e => compare k e.1 == .eq) = none := by
        rw [List.find?_eq_none]
        intro e he
        simp [Std.TransCmp.lt_trans hlt (first e he)]
      by_cases hk : compare k' k = .eq <;> simp [List.find?_cons, hk, hlt, hnone]
    · next heq =>
      by_cases hk : compare k' k = .eq
      · have : compare k' k₁ = .eq := Std.TransCmp.eq_trans hk heq
        simp [hk, heq, this]
      · have : compare k' k₁ ≠ .eq := fun h' =>
          hk (Std.TransCmp.eq_trans h' (Std.OrientedCmp.eq_symm heq))
        simp [hk, this]
    · next hgt =>
      by_cases hk : compare k' k = .eq
      · have : compare k' k₁ ≠ .eq := fun h' => by
          have := Std.TransCmp.eq_trans (Std.OrientedCmp.eq_symm hk) h'
          simp [hgt] at this
        simpa [List.find?_cons, hk, hgt, this] using ih more
      · by_cases hk₁ : compare k' k₁ = .eq
        · simp [hk, hk₁]
        · simpa [List.find?_cons, hk, hk₁] using ih more

theorem get?_alter (m : SortedMap κ ν) (k k' : κ) (f : Option ν → ν) :
    (m.alter k f).get? k' = if compare k' k = .eq then some (f (m.get? k)) else m.get? k' :=
  find?_alterEntries m.inOrder

theorem get?_erase (m : SortedMap κ ν) (k k' : κ) :
    (m.erase k).get? k' = if compare k' k = .eq then none else m.get? k' := by
  by_cases h : compare k' k = .eq
  · rw [if_pos h, get?, Option.map_eq_none_iff, List.find?_eq_none]
    intro e he heq
    have := (List.mem_filter.1 he).2
    have hk := Std.TransCmp.eq_trans (Std.OrientedCmp.eq_symm h) (by simpa using heq)
    simp [hk] at this
  · rw [if_neg h, get?, get?, erase, filter, List.find?_filter]
    congr 2
    funext e
    by_cases hk : compare k' e.1 = .eq
    · have : compare k e.1 ≠ .eq := fun h' =>
        h (Std.TransCmp.eq_trans hk (Std.OrientedCmp.eq_symm h'))
      simp [hk, this]
    · simp [hk]

end SortedMap

end ContentModels
