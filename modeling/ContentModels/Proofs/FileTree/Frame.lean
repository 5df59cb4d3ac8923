import ContentModels.FileTree.Access
import ContentModels.Proofs.Path
import ContentModels.Proofs.Sorted.Map

/-!
# What changes of trees leave alone

The operations on files change few places of a tree. Directories stay where they are, so a path that
leads to a directory keeps leading to it. The names in a directory come in the order of the codes of
their characters, and so do the paths of its files, so two listings of the same files are the same
list.

## Main definitions

* `FileTree.file?` — what is in the file at a place.
* `FileTree.IsNamed` — whether the places in directories are named like files.
* `FileTree.Frame` — one tree is another one, changed at some places only.
* `FileTree.Without` — one tree is another one without what was at some places.

## Main statements

* `FileTree.Frame.put`, `FileTree.Frame.erase` — the changes of one place.
* `FileTree.Without.put`, `FileTree.Without.eq` — what was taken away is put back.
* `FileTree.mem_names`, `FileTree.pairwise_names` — the names in a directory, and their order.
* `Path.compare_of_components` — the order of two files of one directory.
* `FileTree.filter_names_congr` — the same files are listed in the same order.
-/

namespace ContentModels

theorem Location.key_injective : Function.Injective Location.key := by
  intro l l' h
  have hname : Function.Injective fun name : String => name.toList.map Char.toNat := by
    intro s t hst
    exact String.toList_inj.1 (List.map_injective_iff.2 (fun _ _ => Char.toNat_inj.1) hst)
  have hnames := List.map_injective_iff.2 hname h
  cases l
  cases l'
  simpa using hnames

instance : Std.LawfulEqOrd Location where
  eq_of_compare {l l'} h := by
    have hkey : compare l.key l'.key = .eq := h
    exact Location.key_injective (Std.LawfulEqCmp.compare_eq_iff_eq.1 hkey)

namespace Location

@[simp] theorem child_inj {l l' : Location} {x x' : String} :
    l.child x = l'.child x' ↔ l = l' ∧ x = x' := by
  simp only [child, Location.mk.injEq]
  constructor
  · intro h
    obtain ⟨hnames, hlast⟩ := List.append_inj' h rfl
    exact ⟨by cases l; cases l'; simpa using hnames, by simpa using hlast⟩
  · rintro ⟨rfl, rfl⟩
    rfl

theorem names_child_ne_nil (l : Location) (x : String) : (l.child x).names ≠ [] := by simp [child]

end Location

namespace FileTree

variable {t t' t'' : FileTree} {l l' : Location} {n : Node}

/-! ## Places -/

theorem names_ne_nil_of_get?_ne (h : t.get? l ≠ some .dir) : l.names ≠ [] := by
  intro hl
  simp [get?, hl] at h

theorem get?_put (h : t.get? l ≠ some .dir) (n : Node) (l' : Location) :
    (t.put l n).get? l' = if l' = l then some n else t.get? l' := by
  have hl := names_ne_nil_of_get?_ne h
  rw [get?, get?, put, SortedMap.get?_insert]
  simp only [Std.LawfulEqCmp.compare_eq_iff_eq]
  by_cases heq : l' = l
  · simp [heq, hl]
  · simp [heq]

theorem get?_erase (h : t.get? l ≠ some .dir) (l' : Location) :
    (t.erase l).get? l' = if l' = l then none else t.get? l' := by
  have hl := names_ne_nil_of_get?_ne h
  rw [get?, get?, erase, SortedMap.get?_erase]
  simp only [Std.LawfulEqCmp.compare_eq_iff_eq]
  by_cases heq : l' = l
  · simp [heq, hl]
  · simp [heq]

/-- What is in the file at a place. -/
def file? (t : FileTree) (l : Location) : Option Content :=
  match t.get? l with
  | some (.file content) => some content
  | _ => none

theorem file?_eq_some_iff {content : Content} :
    t.file? l = some content ↔ t.get? l = some (.file content) := by
  rw [file?]
  split <;> simp_all

/-- Whether the places in directories are named like files. -/
def IsNamed (t : FileTree) : Prop :=
  ∀ (dir : Location) (x : String), dir.child x ∈ t.nodes.keys → Path.IsName x

/-! ## Frames -/

/-- One tree is another one, changed at some places only: directories stay, and so do the files of
the other places. -/
structure Frame (touched : Location → Prop) (t t' : FileTree) : Prop where
  here : t'.here = t.here
  dirs : ∀ l, t.get? l = some .dir → t'.get? l = some .dir
  files : ∀ l, ¬touched l → t'.file? l = t.file? l
  named : t.IsNamed → t'.IsNamed

namespace Frame

variable {touched touched' : Location → Prop}

theorem refl (touched : Location → Prop) (t : FileTree) : Frame touched t t :=
  ⟨rfl, fun _ h => h, fun _ _ => rfl, id⟩

theorem trans (h : Frame touched t t') (h' : Frame touched t' t'') : Frame touched t t'' where
  here := h'.here.trans h.here
  dirs l hl := h'.dirs l (h.dirs l hl)
  files l hl := (h'.files l hl).trans (h.files l hl)
  named hn := h'.named (h.named hn)

theorem mono (h : Frame touched t t') (himp : ∀ l, touched l → touched' l) : Frame touched' t t' :=
  ⟨h.here, h.dirs, fun l hl => h.files l (mt (himp l) hl), h.named⟩

/-- Something is put at a place that is no directory. -/
theorem put (h : t.get? l ≠ some .dir)
    (named : ∀ (dir : Location) (x : String), l = dir.child x → Path.IsName x) (n : Node) :
    Frame (· = l) t (t.put l n) where
  here := rfl
  dirs l' hl' := by
    rw [get?_put h, if_neg (by rintro rfl; exact h hl'), hl']
  files l' hl' := by
    rw [file?, file?, get?_put h, if_neg hl']
  named hn d x hkey := by
    obtain ⟨v, hmem⟩ := SortedMap.mem_keys.1 hkey
    rcases SortedMap.key_mem_insert hmem with heq | ⟨e, he, heq⟩
    · exact named d x heq.symm
    · obtain heq : e.1 = d.child x := heq
      exact hn d x (SortedMap.mem_keys.2 ⟨e.2, heq ▸ he⟩)

/-- A directory that is put where nothing is changes no file. -/
theorem of_put_dir (h : Frame (· = l) t (t.put l .dir)) (hget : t.get? l = none) :
    Frame (fun _ => False) t (t.put l .dir) where
  here := h.here
  dirs := h.dirs
  files l' _ := by
    by_cases heq : l' = l
    · rw [heq, file?, file?, get?_put (by simp [hget]), if_pos rfl, hget]
    · exact h.files l' heq
  named := h.named

/-- What is at a place is taken away, unless it is a directory. -/
theorem erase (h : t.get? l ≠ some .dir) : Frame (· = l) t (t.erase l) where
  here := rfl
  dirs l' hl' := by
    rw [get?_erase h, if_neg (by rintro rfl; exact h hl'), hl']
  files l' hl' := by
    rw [file?, file?, get?_erase h, if_neg hl']
  named hn d x hkey := by
    obtain ⟨v, hmem⟩ := SortedMap.mem_keys.1 hkey
    exact hn d x (SortedMap.mem_keys.2 ⟨v, (SortedMap.mem_erase.1 hmem).1⟩)

/-- All that can happen at a place that is not touched is that a directory is created there. -/
theorem get?_of_untouched (h : Frame touched t t') (hl : ¬touched l) :
    t'.get? l = t.get? l ∨ t.get? l = none ∧ t'.get? l = some .dir := by
  have hfile := h.files l hl
  cases hget : t.get? l with
  | none =>
    rw [file?, file?, hget] at hfile
    rcases hget' : t'.get? l with _ | _ | content
    · exact .inl rfl
    · exact .inr ⟨rfl, rfl⟩
    · rw [hget'] at hfile
      cases hfile
  | some n =>
    cases n with
    | dir => exact .inl (h.dirs l hget)
    | file content =>
      rw [file?_eq_some_iff.2 hget] at hfile
      exact .inl (file?_eq_some_iff.1 hfile)

end Frame

/-- What is put at an empty place can be taken away again. -/
theorem erase_put (hl : l.names ≠ []) (h : t.get? l = none) (n : Node) :
    (t.put l n).erase l = t := by
  rw [get?, if_neg (by simpa using hl)] at h
  rw [erase, put, SortedMap.erase_insert_of_new h]

/-! ## What was taken away -/

section TakenAway

variable {gone gone' : Location → Prop}

/-- One tree is another one without what was at some places. -/
structure Without (gone : Location → Prop) (t t' : FileTree) : Prop where
  here : t'.here = t.here
  nodes : ∀ m, t'.nodes.get? m = t.nodes.get? m ∨ gone m ∧ t'.nodes.get? m = none

namespace Without

theorem refl (gone : Location → Prop) (t : FileTree) : Without gone t t := ⟨rfl, fun _ => .inl rfl⟩

theorem trans (h : Without gone t t') (h' : Without gone t' t'') : Without gone t t'' where
  here := h'.here.trans h.here
  nodes m := by
    rcases h'.nodes m with heq | hgone
    · rw [heq]
      exact h.nodes m
    · exact .inr hgone

theorem mono (h : Without gone t t') (himp : ∀ m, gone m → gone' m) : Without gone' t t' :=
  ⟨h.here, fun m => (h.nodes m).imp_right fun ⟨hm, hnone⟩ => ⟨himp m hm, hnone⟩⟩

theorem erase (t : FileTree) (l : Location) : Without (· = l) t (t.erase l) where
  here := rfl
  nodes m := by
    rw [FileTree.erase, SortedMap.get?_erase]
    simp only [Std.LawfulEqCmp.compare_eq_iff_eq]
    by_cases heq : m = l
    · exact .inr ⟨heq, if_pos heq⟩
    · exact .inl (if_neg heq)

/-- What was at a place is put back there. -/
theorem put (h : Without gone t t') (hl : t.nodes.get? l = some n) :
    Without (fun m => gone m ∧ m ≠ l) t (t'.put l n) where
  here := h.here
  nodes m := by
    rw [FileTree.put, SortedMap.get?_insert]
    simp only [Std.LawfulEqCmp.compare_eq_iff_eq]
    by_cases heq : m = l
    · exact .inl (by rw [if_pos heq, heq, hl])
    · rw [if_neg heq]
      exact (h.nodes m).imp_right fun ⟨hm, hnone⟩ => ⟨⟨hm, heq⟩, hnone⟩

/-- Nothing was taken away if no place is left from which it was. -/
theorem eq (h : Without gone t t') (hgone : ∀ m, ¬gone m) : t' = t := by
  have hnodes : t'.nodes = t.nodes :=
    SortedMap.ext_get? fun m => (h.nodes m).resolve_right fun hm => hgone m hm.1
  cases t
  cases t'
  exact FileTree.mk.injEq .. ▸ ⟨hnodes, h.here⟩

end Without

end TakenAway

/-! ## Names in directories -/

theorem mem_names {dir : Location} {x : String} :
    x ∈ t.names dir ↔ dir.child x ∈ t.nodes.keys := by
  simp only [names, List.mem_filterMap]
  constructor
  · rintro ⟨l, hl, hx⟩
    split at hx
    · split at hx
      · next heq =>
        obtain rfl := Option.some.inj hx
        exact heq ▸ hl
      · cases hx
    · cases hx
  · intro h
    exact ⟨dir.child x, h, by simp [Location.child]⟩

theorem mem_names_of_get? {dir : Location} {x : String} (h : t.get? (dir.child x) = some n) :
    x ∈ t.names dir := by
  rw [get?, if_neg (by simp [Location.child])] at h
  obtain ⟨l, hmem, hl⟩ := SortedMap.get?_eq_some_iff.1 h
  obtain rfl := Std.LawfulEqCmp.compare_eq_iff_eq.1 hl
  exact mem_names.2 (SortedMap.mem_keys.2 ⟨_, hmem⟩)

theorem mem_names_of_file? {dir : Location} {x : String} {content : Content}
    (h : t.file? (dir.child x) = some content) : x ∈ t.names dir :=
  mem_names_of_get? (file?_eq_some_iff.1 h)

end FileTree

/-! ## The order of names -/

/-- The codes of the characters of a name, which its order goes by. -/
def nameCodes (x : String) : List Nat := x.toList.map Char.toNat

/-- What two lists start with in common does not count. -/
theorem compare_append_left {α : Type} [Ord α] [Std.ReflOrd α] (l m n : List α) :
    compare (l ++ m) (l ++ n) = compare m n := by
  induction l with
  | nil => rfl
  | cons a l ih =>
    rw [List.cons_append, List.cons_append, List.compare_cons_cons, ih, Std.ReflOrd.compare_self]
    rfl

theorem compare_singleton {α : Type} [Ord α] (a b : α) : compare [a] [b] = compare a b := by
  rw [List.compare_cons_cons, List.compare_nil_nil]
  cases compare a b <;> rfl

theorem Location.compare_child (l : Location) (x y : String) :
    compare (l.child x) (l.child y) = compare (nameCodes x) (nameCodes y) := by
  have hkey (z : String) : (l.child z).key = l.key ++ [nameCodes z] := by
    simp [Location.key, child, nameCodes]
  have h : compare (l.child x) (l.child y) = compare (l.child x).key (l.child y).key := rfl
  rw [h, hkey, hkey, compare_append_left, compare_singleton]

/-- Two files of one directory come in the order of their names. -/
theorem Path.compare_of_components {p q : Path} {base : List Component} {x y : String}
    (hp : p.components = base ++ [Component.name x])
    (hq : q.components = base ++ [Component.name y]) :
    compare p q = compare (nameCodes x) (nameCodes y) := by
  have h : compare p q = compare p.key q.key := rfl
  rw [h, key, key, hp, hq, List.map_append, List.map_append, compare_append_left]
  rw [List.map_singleton, List.map_singleton, compare_singleton]
  simp only [Component.key, List.compare_cons_cons, Std.ReflOrd.compare_self]
  rfl

namespace FileTree

variable {t t' : FileTree} {l : Location}

/-- The names in a directory are in order. -/
theorem pairwise_names (t : FileTree) (l : Location) :
    (t.names l).Pairwise fun x y => compare (nameCodes x) (nameCodes y) = .lt := by
  rw [names, List.pairwise_filterMap]
  refine t.nodes.pairwise_keys.imp fun {a b} hab x hx y hy => ?_
  have hax : a = l.child x := by grind
  have hby : b = l.child y := by grind
  rwa [hax, hby, Location.compare_child] at hab

/-- No name is listed twice. -/
theorem nodup_names (t : FileTree) (l : Location) : (t.names l).Nodup := by
  refine (t.pairwise_names l).imp ?_
  rintro x y hlt rfl
  simp [Std.ReflOrd.compare_self] at hlt

/-- If two trees have the same files of some names in a directory, they list them alike. -/
theorem filter_names_congr {keep keep' : String → Bool}
    (h : ∀ x, (x ∈ t.names l ∧ keep x = true) ↔ (x ∈ t'.names l ∧ keep' x = true)) :
    (t.names l).filter keep = (t'.names l).filter keep' := by
  have hsorted := (t.pairwise_names l).filter keep
  have hsorted' := (t'.pairwise_names l).filter keep'
  have hnodup := (t.nodup_names l).filter keep
  have hnodup' := (t'.nodup_names l).filter keep'
  refine List.Perm.eq_of_pairwise ?_ hsorted hsorted' ?_
  · intro x y _ _ hxy hyx
    rw [Std.OrientedOrd.eq_swap, hyx] at hxy
    cases hxy
  · refine (List.perm_ext_iff_of_nodup hnodup hnodup').2 fun x => ?_
    rw [List.mem_filter, List.mem_filter, h]

end FileTree

end ContentModels
