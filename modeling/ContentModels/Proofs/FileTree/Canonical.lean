import ContentModels.Proofs.FileTree.Spelling

/-!
# Paths without detours

The path of a place is made of the names that lead there from the root. In a tree without gaps it
leads there, and paths of different places are different.

## Main definitions

* `FileTree.IsSolid` — trees in which everything lies in a directory, under the name of a file.

## Main statements

* `FileTree.IsSolid.find_path` — the path of a place leads there.
* `FileTree.IsSolid.find_of_join` — other paths that lead to a directory.
* `Location.components_path_inj` — paths of different places are different.
* `Path.components_join` — the components of a path below another one.
* `Path.exists_child_of_place` — a path with a name at its end is written for a place of that name.
-/

namespace ContentModels

open Text

/-! ## Components -/

namespace Location

/-- Whether all names that lead to a place can be names of files. -/
def IsNamed (l : Location) : Prop := ∀ x ∈ l.names, Path.IsName x

theorem isNamed_child {l : Location} {x : String} :
    (l.child x).IsNamed ↔ l.IsNamed ∧ Path.IsName x := by
  simp [IsNamed, child, or_imp, forall_and]

theorem allPieces_path {l : Location} (h : l.IsNamed) (hne : l.names ≠ []) :
    l.path.allPieces = [] :: l.names.map String.toList := by
  have hchars : l.path.chars = [] ++ '/' :: joinPieces '/' (l.names.map String.toList) := by
    simp [path, Path.chars, joinPieces]
  rw [Path.allPieces, hchars, pieces_append_sep, pieces_joinPieces (by simpa using hne)]
  · rfl
  · intro piece hpiece
    obtain ⟨x, hx, rfl⟩ := List.mem_map.1 hpiece
    exact (h x hx).noSeparator

theorem filter_allPieces_path {l : Location} (h : l.IsNamed) :
    l.path.allPieces.filter Path.counts = l.names.map String.toList := by
  obtain ⟨names⟩ := l
  rcases eq_or_ne names [] with rfl | hne
  · decide
  · rw [allPieces_path h hne, List.filter_cons_of_neg (by decide)]
    refine List.filter_eq_self.2 fun piece hpiece => ?_
    obtain ⟨x, hx, rfl⟩ := List.mem_map.1 hpiece
    exact (h x hx).counts

theorem isAbsolute_path (l : Location) : l.path.isAbsolute = true := by
  simp [path, Path.isAbsolute, Path.chars]

theorem components_path {l : Location} (h : l.IsNamed) :
    l.path.components = .root :: l.names.map .name := by
  have hnames : (l.names.map String.toList).map Path.ofPiece = l.names.map .name := by
    rw [List.map_map]
    exact List.map_congr_left fun x hx => (h x hx).ofPiece
  rw [Path.components_eq, Path.opening, if_pos l.isAbsolute_path, filter_allPieces_path h,
    hnames]
  rfl

theorem components_path_child {l : Location} {x : String} (h : (l.child x).IsNamed) :
    (l.child x).path.components = l.path.components ++ [.name x] := by
  rw [components_path h, components_path (isNamed_child.1 h).1]
  simp [child]

theorem components_path_inj {l m : Location} (hl : l.IsNamed) (hm : m.IsNamed)
    (h : l.path.components = m.path.components) : l = m := by
  rw [components_path hl, components_path hm] at h
  have hnames : l.names = m.names := by simpa [List.map_inj_right] using h
  cases l
  cases m
  exact congrArg Location.mk hnames

end Location

namespace Path

variable {p q : Path} {x : String}

/-- A name at the end of a path can be that of a file. -/
theorem exists_of_fileName? (h : p.fileName? = some x) : IsName x ∧
    ∃ ps, p.allPieces.filter counts = ps ++ [x.toList] := by
  have hlast : p.components.getLast? = some (.name x) := by
    unfold fileName? at h
    split at h <;> simp_all
  obtain ⟨cs, hcs⟩ := List.getLast?_eq_some_iff.1 hlast
  rcases List.eq_nil_or_concat (p.allPieces.filter counts) with hnil | ⟨ps, piece, hps⟩
  · rw [components_eq, hnil, List.map_nil, List.append_nil, opening] at hcs
    split at hcs
    · simp [List.singleton_eq_append_iff] at hcs
    · split at hcs <;> simp [List.singleton_eq_append_iff] at hcs
  have hpiece : ofPiece piece = .name x := by
    rw [components_eq, hps] at hlast
    simpa using hlast
  have hmem : piece ∈ p.allPieces.filter counts := by simp [hps]
  obtain ⟨hall, hcounts⟩ := List.mem_filter.1 hmem
  unfold ofPiece at hpiece
  split at hpiece
  · cases hpiece
  next hdots =>
  obtain rfl := Component.name.inj hpiece
  have htext : (String.ofList piece).toList = piece := String.toList_ofList
  refine ⟨⟨?_, ?_, ?_⟩, ps, ?_⟩ <;> rw [htext]
  · exact not_mem_of_mem_pieces hall
  · exact hcounts
  · simpa using hdots
  · rw [hps, List.concat_eq_append]

/-- The components of a path below an absolute one. A dot at its start gets lost. -/
theorem components_join (hp : p.isAbsolute = true) (hq : q.isAbsolute = false) :
    (p.join q).components = p.components ++ (q.allPieces.filter counts).map ofPiece := by
  have hne : p.chars ≠ [] := by
    obtain ⟨r, hr⟩ := isAbsolute_iff.1 hp
    simp [hr]
  -- The separator between the two paths stands at the end of the first one, or is put there.
  obtain ⟨cs, hcs, hjoin⟩ : ∃ cs, (p.chars = cs ++ ['/'] ∨ p.chars = cs) ∧
      (p.join q).chars = cs ++ '/' :: q.chars := by
    rw [join, hq, List.isEmpty_eq_false_iff.2 hne]
    by_cases hlast : p.chars.getLast? = some '/'
    · obtain ⟨cs, hcs⟩ := List.getLast?_eq_some_iff.1 hlast
      refine ⟨cs, .inl hcs, ?_⟩
      rw [if_neg (by decide), if_pos (by simpa using hlast), chars, String.toList_append,
        show p.text.toList = cs ++ ['/'] from hcs, List.append_assoc]
      rfl
    · refine ⟨p.chars, .inr rfl, ?_⟩
      rw [if_neg (by decide), if_neg (by simpa using hlast)]
      simp [chars]
  have habs : (p.join q).isAbsolute = true := by
    obtain ⟨r, hr⟩ := isAbsolute_iff.1 hp
    rw [isAbsolute, hjoin]
    rcases hcs with hcs | hcs <;> rw [hcs] at hr <;> cases cs <;> simp_all
  have hpieces : p.allPieces.filter counts = (pieces '/' cs).filter counts := by
    rw [allPieces]
    rcases hcs with hcs | hcs <;> rw [hcs]
    rw [pieces_append_sep]
    simp [pieces, counts]
  rw [components_eq, components_eq, opening, opening, habs, hp, hpieces, allPieces, hjoin,
    pieces_append_sep, List.filter_append, List.map_append, List.append_assoc, allPieces]
  rfl

/-- Nothing is below a path but itself if the other path is empty. -/
theorem components_join_empty (hp : p.isAbsolute = true) (hq : q.chars = []) :
    (p.join q).components = p.components := by
  have habs : q.isAbsolute = false := by simp [isAbsolute, hq]
  have hpieces : q.allPieces.filter counts = [] := by
    rw [allPieces, hq]
    decide
  rw [components_join hp habs, hpieces, List.map_nil, List.append_nil]

/-- Where a path is written for depends on those of its pieces that count. -/
theorem place_eq (here : Location) (p : Path) : p.place here =
    (p.allPieces.filter counts).foldl Location.advance (if p.isAbsolute then .root else here) := by
  have hadvance : (fun l piece => if counts piece = true then Location.advance l piece else l) =
      Location.advance := by
    funext l piece
    by_cases hc : counts piece = true
    · rw [if_pos hc]
    · rw [if_neg hc, Location.advance, if_pos (by simpa using hc)]
  rw [place, List.foldl_filter, hadvance]

/-- A path with a name at its end is written for a place of that name. -/
theorem exists_child_of_place (here : Location) (h : p.fileName? = some x) :
    ∃ l : Location, p.place here = l.child x := by
  obtain ⟨hx, ps, hps⟩ := exists_of_fileName? h
  rw [place_eq, hps, List.foldl_append, List.foldl_cons, List.foldl_nil, Location.advance,
    if_neg (by simp [hx.counts]), if_neg (by simp [hx.noDots]), String.ofList_toList]
  exact ⟨_, rfl⟩

/-- What a path lies in, and the name that it has there. -/
theorem components_eq_of_parent? (hq : p.parent? = some q) (hx : p.fileName? = some x) :
    p.components = q.components ++ [.name x] := by
  have hlast : p.components.getLast? = some (.name x) := by
    unfold fileName? at hx
    split at hx <;> simp_all
  obtain ⟨cs, hcs⟩ := List.getLast?_eq_some_iff.1 hlast
  rw [components_of_parent? hq, hcs, List.dropLast_concat]

end Path

/-! ## Trees without gaps -/

namespace FileTree

variable {t : FileTree} {l m : Location} {n : Node} {p : Path} {x : String}

/-- Everything lies in a directory, under the name of a file, and relative paths start in one of the
directories. -/
structure IsSolid (t : FileTree) : Prop where
  named : t.IsNamed
  rooted : t.IsRooted
  here : t.get? t.here = some .dir

/-- Whether a tree is solid is seen from the places in it. -/
theorem isSolid_iff : t.IsSolid ↔ (∀ l ∈ t.nodes.keys, ∀ x ∈ l.names.getLast?,
    Path.IsName x ∧ t.get? l.parent = some .dir) ∧ t.get? t.here = some .dir := by
  constructor
  · rintro ⟨named, rooted, here⟩
    refine ⟨fun l hl x hx => ?_, here⟩
    obtain ⟨above, hnames⟩ := List.getLast?_eq_some_iff.1 hx
    obtain rfl : l = Location.child ⟨above⟩ x := by
      cases l
      exact congrArg Location.mk hnames
    refine ⟨named _ _ hl, ?_⟩
    rw [Location.parent, Location.child, List.dropLast_concat]
    exact rooted _ _ hl
  · rintro ⟨hkeys, here⟩
    have hchild {dir : Location} {x : String} (hmem : dir.child x ∈ t.nodes.keys) :=
      hkeys _ hmem x (by simp [Location.child])
    refine ⟨fun dir x hmem => (hchild hmem).1, fun dir x hmem => ?_, here⟩
    have hparent := (hchild hmem).2
    rwa [Location.parent, Location.child, List.dropLast_concat] at hparent

instance : Decidable t.IsSolid := decidable_of_iff' _ isSolid_iff

namespace IsSolid

/-- Whatever is there is the root, or lies in a directory. -/
theorem cases_of_get? (h : t.IsSolid) (hget : t.get? l = some n) : l = .root ∧ n = .dir ∨
    ∃ dir x, l = dir.child x ∧ t.get? dir = some .dir ∧ Path.IsName x := by
  obtain ⟨names⟩ := l
  rcases List.eq_nil_or_concat names with rfl | ⟨above, x, rfl⟩
  · exact .inl ⟨rfl, (Option.some.inj hget).symm⟩
  · have hchild : t.get? (Location.child ⟨above⟩ x) = some n := by
      rwa [List.concat_eq_append] at hget
    refine .inr ⟨⟨above⟩, x, by rw [List.concat_eq_append]; rfl, h.rooted.get?_of_child hchild, ?_⟩
    exact h.named _ _ (mem_names.1 (mem_names_of_get? hchild))

/-- What leads to the root leads to everything that is there, from above. -/
theorem induct {P : Location → Node → Prop} (h : t.IsSolid) (root : P .root .dir)
    (child : ∀ dir x n, P dir .dir → Path.IsName x → t.get? (dir.child x) = some n →
      P (dir.child x) n) (hget : t.get? l = some n) : P l n := by
  obtain ⟨names⟩ := l
  induction names using List.reverseRecOn generalizing n with
  | nil =>
    obtain rfl := Option.some.inj hget
    exact root
  | append_singleton above x ih =>
    have hchild : t.get? (Location.child ⟨above⟩ x) = some n := hget
    have hdir := ih (h.rooted.get?_of_child hchild)
    exact child ⟨above⟩ x n hdir (h.named _ _ (mem_names.1 (mem_names_of_get? hchild))) hchild

theorem isNamed_of_get? (h : t.IsSolid) (hget : t.get? l = some n) : l.IsNamed :=
  h.induct (P := fun l _ => l.IsNamed) nofun
    (fun _ _ _ hdir hx _ => Location.isNamed_child.2 ⟨hdir, hx⟩) hget

/-- The names that lead to a place are a walk to it. -/
theorem walk_names (h : t.IsSolid) (hget : t.get? l = some n) :
    t.walk .root (l.names.map String.toList) = .ok (.node l n) := by
  refine h.induct (P := fun l n => t.walk .root (l.names.map String.toList) = .ok (.node l n)) rfl
    (fun dir x n hdir hx hchild => ?_) hget
  rw [Location.child, List.map_append, List.map_singleton, walk_append hdir, walk_name hx, entry,
    hchild]
  rfl

/-- The path of a place leads there. -/
theorem find_path (h : t.IsSolid) (hget : t.get? l = some n) : t.find l.path = .ok (.node l n) := by
  have hnamed := h.isNamed_of_get? hget
  have hwalk := h.walk_names hget
  have habs := l.isAbsolute_path
  have hne : l.path.chars ≠ [] := by
    obtain ⟨r, hr⟩ := Path.isAbsolute_iff.1 habs
    simp [hr]
  rw [find_eq hne, start, if_pos habs]
  obtain ⟨names⟩ := l
  rcases eq_or_ne names [] with rfl | hnames
  · obtain rfl := Option.some.inj hget
    rfl
  · rw [Location.allPieces_path hnamed hnames, walk, if_pos (by decide), hwalk]

/-- What is found is there. -/
theorem get?_of_find (h : t.IsSolid) (hfind : t.find p = .ok (.node l n)) : t.get? l = some n := by
  have hwalk {dir : Location} {ps : List (List Char)} (hdir : t.get? dir = some .dir)
      (hps : t.walk dir ps = .ok (.node l n)) : t.get? l = some n := by
    induction ps generalizing dir with
    | nil =>
      cases hps
      exact hdir
    | cons piece rest ih =>
      cases htoward : t.toward dir piece with
      | some m =>
        rw [walk_cons_of_toward htoward] at hps
        refine ih ?_ hps
        unfold toward at htoward
        split at htoward
        · exact Option.some.inj htoward ▸ hdir
        split at htoward
        · obtain rfl := Option.some.inj htoward
          rcases h.cases_of_get? hdir with ⟨rfl, -⟩ | ⟨above, x, rfl, habove, -⟩
          · rfl
          · rwa [Location.parent, Location.child, List.dropLast_concat]
        split at htoward
        · next hget => exact Option.some.inj htoward ▸ hget
        · cases htoward
      | none =>
        obtain ⟨-, hcons⟩ := walk_cons_of_toward_eq_none htoward rest
        rw [hps] at hcons
        split at hcons
        · next content hget =>
          split at hcons
          · cases hcons
            exact hget
          · cases hcons
        · split at hcons <;> cases hcons
  rw [find_eq (chars_ne_nil_of_find hfind), start] at hfind
  refine hwalk ?_ hfind
  split
  · rfl
  · exact h.here

/-- A directory is found by every path that makes up its own one together with that of the place
where relative paths start. -/
theorem find_of_join (h : t.IsSolid) (hget : t.get? l = some .dir) (hne : p.chars ≠ [])
    (hsame : (t.here.path.join p).components = l.path.components) : t.find p = .ok (.node l .dir) := by
  cases habs : p.isAbsolute with
  | true =>
    rw [Path.join, habs, Bool.true_or, if_pos rfl] at hsame
    exact find_of_components (h.find_path hget) hne hsame
  | false =>
    have hl := h.isNamed_of_get? hget
    have hhere := h.isNamed_of_get? h.here
    rw [Path.components_join t.here.isAbsolute_path habs, Location.components_path hhere,
      Location.components_path hl, List.cons_append, List.cons_inj_right, eq_comm,
      List.map_eq_append_iff] at hsame
    -- The names that lead to the directory start with those that lead to the start.
    obtain ⟨above, rest, hnames, habove, hrest⟩ := hsame
    obtain rfl : above = t.here.names := List.map_injective_iff.2 (fun _ _ => Component.name.inj) habove
    have hpieces : p.allPieces.filter Path.counts = rest.map String.toList := by
      refine List.map_injective_iff.2 (fun _ _ => Path.ofPiece_inj.1) ?_
      rw [← hrest, List.map_map]
      refine List.map_congr_left fun x hx => (hl x ?_).ofPiece.symm
      exact hnames ▸ List.mem_append_right _ hx
    have hwalk := h.walk_names hget
    rw [hnames, List.map_append, walk_append (h.walk_names h.here)] at hwalk
    rw [find_eq hne, start, habs, if_neg Bool.false_ne_true, walk_filter, hpieces, hwalk]

end IsSolid

end FileTree

end ContentModels
