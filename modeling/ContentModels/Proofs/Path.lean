import ContentModels.Path
import ContentModels.Proofs.Text.Pieces
import Mathlib.Data.List.DropRight

/-!
# Components of paths

What the usual operations on paths do to their components. A path is cut into its pieces first; the
components are the pieces that count, behind a root or a dot at the start.

## Main definitions

* `Path.allPieces` — the pieces of a path.
* `Path.IsName` — whether a text can be the name of a file.

## Main statements

* `Path.compare_eq_iff` — when two paths count as the same.
* `Path.components_eq` — the components in terms of the pieces.
* `Path.components_file` — the components of a file of a directory.
* `Path.exists_parent_file` — what a file of a directory lies in.
-/

namespace ContentModels

theorem Component.key_injective : Function.Injective Component.key := by
  intro a b h
  cases a <;> cases b <;> simp_all [Component.key]
  next s t =>
    exact String.toList_inj.1 (List.map_injective_iff.2 (fun _ _ => Char.toNat_inj.1) h)

namespace Path

open Text

/-- Two paths count as the same if they have the same components. -/
theorem compare_eq_iff {p q : Path} : compare p q = .eq ↔ p.components = q.components := by
  have hkey : compare p q = compare p.key q.key := rfl
  rw [hkey, Std.LawfulEqCmp.compare_eq_iff_eq, key, key,
    List.map_inj_right fun _ _ h => Component.key_injective h]

/-! ## Pieces -/

/-- The pieces of a path between separators. -/
def allPieces (p : Path) : List (List Char) := pieces '/' p.chars

/-- The component that a path starts with before its names. -/
def opening (p : Path) : List Component :=
  if p.isAbsolute then [.root] else if p.opensWithDot then [.current] else []

theorem components_eq_opening (p : Path) :
    p.components = p.opening ++ (p.bodyPieces.filter counts).map ofPiece := rfl

theorem isAbsolute_iff {p : Path} : p.isAbsolute = true ↔ ∃ r, p.chars = '/' :: r := by
  rw [isAbsolute]
  cases p.chars <;> simp

theorem opensWithDot_iff {p : Path} :
    p.opensWithDot = true ↔ p.chars = ['.'] ∨ ∃ r, p.chars = '.' :: '/' :: r := by
  rw [opensWithDot]
  split <;> simp_all

/-- The pieces behind the head are those of the whole path but for some that do not count. -/
theorem filter_bodyPieces (p : Path) :
    p.bodyPieces.filter counts = p.allPieces.filter counts := by
  rw [bodyPieces, allPieces, headLength]
  by_cases ha : p.isAbsolute = true
  · obtain ⟨r, hr⟩ := isAbsolute_iff.1 ha
    simp [ha, hr, pieces, counts]
  · by_cases hd : p.opensWithDot = true
    · rcases opensWithDot_iff.1 hd with h | ⟨r, h⟩
      · simp [ha, hd, h, pieces, counts]
      · simp [ha, hd, h, pieces, counts]
    · simp [ha, hd]

theorem components_eq (p : Path) :
    p.components = p.opening ++ (p.allPieces.filter counts).map ofPiece := by
  rw [components_eq_opening, filter_bodyPieces]

theorem ofPiece_inj {piece piece' : List Char} : ofPiece piece = ofPiece piece' ↔ piece = piece' := by
  refine ⟨fun h => ?_, congrArg ofPiece⟩
  unfold ofPiece at h
  split at h <;> split at h
  · simp_all
  · cases h
  · cases h
  · simpa using congrArg String.toList (Component.name.inj h)

theorem notMem_map_ofPiece (l : List (List Char)) :
    .root ∉ l.map ofPiece ∧ .current ∉ l.map ofPiece := by
  constructor <;>
  · rw [List.mem_map]
    rintro ⟨piece, -, hpiece⟩
    unfold ofPiece at hpiece
    split at hpiece <;> cases hpiece

/-- A dot is a component only at the start. -/
theorem opensWithDot_of_current_mem {p : Path} (h : .current ∈ p.components) :
    p.opensWithDot = true := by
  rw [components_eq, List.mem_append] at h
  have hopening := h.resolve_right (notMem_map_ofPiece _).2
  unfold opening at hopening
  split at hopening
  · simp at hopening
  · split at hopening
    · assumption
    · simp at hopening

theorem components_ne_nil_of_opensWithDot {p : Path} (h : p.opensWithDot = true) :
    p.components ≠ [] := by
  rw [components_eq_opening, opening, h]
  split <;> simp

/-- Paths of the same components start in the same place, and have the same pieces that count. -/
theorem eq_of_components_eq {p q : Path} (h : p.components = q.components) :
    p.isAbsolute = q.isAbsolute ∧ p.allPieces.filter counts = q.allPieces.filter counts := by
  rw [components_eq, components_eq] at h
  generalize p.allPieces.filter counts = l at h ⊢
  generalize q.allPieces.filter counts = m at h ⊢
  have hl := notMem_map_ofPiece l
  have hm := notMem_map_ofPiece m
  have hinj : l.map ofPiece = m.map ofPiece → l = m :=
    (List.map_inj_right fun _ _ => ofPiece_inj.1).1
  unfold opening at h
  split at h <;> split at h <;> grind

/-- An empty path has no components. -/
theorem components_of_chars_nil {p : Path} (h : p.chars = []) : p.components = [] := by
  simp [components_eq, opening, isAbsolute, opensWithDot, allPieces, h, pieces, counts]

/-- Only an empty path has no components. -/
theorem chars_eq_nil_of_components {p : Path} (h : p.components = []) : p.chars = [] := by
  rw [components_eq, List.append_eq_nil_iff, List.map_eq_nil_iff] at h
  obtain ⟨hopening, hpieces⟩ := h
  have ha : ¬p.isAbsolute = true := fun ha => by simp [opening, ha] at hopening
  have hd : ¬p.opensWithDot = true := fun hd => by simp [opening, ha, hd] at hopening
  have hchars : p.chars = joinPieces '/' p.allPieces := (joinPieces_pieces '/' p.chars).symm
  cases hall : p.allPieces with
  | nil => exact absurd hall (pieces_ne_nil '/' p.chars)
  | cons first rest =>
    have hfirst : first = [] ∨ first = ['.'] := by
      have hcounts := List.filter_eq_nil_iff.1 hpieces first (by simp [hall])
      exact or_iff_not_imp_left.2 (by simpa [counts] using hcounts)
    rw [hall] at hchars
    -- A first piece that does not count opens an absolute path or one with a dot, unless it is all.
    rcases rest with _ | ⟨second, rest⟩
    · rcases hfirst with rfl | rfl
      · exact hchars
      · exact absurd (opensWithDot_iff.2 (.inl hchars)) hd
    · rw [joinPieces_cons _ _ (List.cons_ne_nil _ _)] at hchars
      rcases hfirst with rfl | rfl
      · exact absurd (isAbsolute_iff.2 ⟨_, hchars⟩) ha
      · exact absurd (opensWithDot_iff.2 (.inr ⟨_, hchars⟩)) hd

/-! ## Files of directories -/

/-- Whether a text can be the name of a file: it has no separator, and is neither empty nor dots. -/
structure IsName (name : String) : Prop where
  noSeparator : '/' ∉ name.toList
  counts : counts name.toList = true
  noDots : name.toList ≠ ['.', '.']

instance (name : String) : Decidable (IsName name) :=
  decidable_of_iff ('/' ∉ name.toList ∧ Path.counts name.toList = true ∧ name.toList ≠ ['.', '.'])
    ⟨fun h => ⟨h.1, h.2.1, h.2.2⟩, fun h => ⟨h.1, h.2, h.3⟩⟩

theorem IsName.ofPiece {name : String} (h : IsName name) :
    ofPiece name.toList = .name name := by
  simp [Path.ofPiece, h.noDots]

theorem isAbsolute_of_noSeparator {x : String} (hx : '/' ∉ x.toList) :
    isAbsolute ⟨x⟩ = false := by
  rw [Bool.eq_false_iff]
  intro h
  obtain ⟨r, hr⟩ := isAbsolute_iff.1 h
  exact hx (by rw [show x.toList = '/' :: r from hr]; simp)

/-- A path ends in a separator, or a separator is put between it and a file. -/
theorem exists_chars_file {p : Path} (hp : p.chars ≠ []) {x : String} (hx : '/' ∉ x.toList) :
    ∃ cs, (p.chars = cs ++ ['/'] ∨ p.chars = cs) ∧ (p.file x).chars = cs ++ '/' :: x.toList := by
  have hne : p.chars.isEmpty = false := by simpa using hp
  have hjoin : p.file x = if p.chars.getLast? == some '/' then ⟨p.text ++ x⟩
      else ⟨p.text ++ "/" ++ x⟩ := by
    rw [file, join, isAbsolute_of_noSeparator hx, hne]
    rfl
  rw [hjoin]
  split
  · next hlast =>
    obtain ⟨cs, hcs⟩ := List.getLast?_eq_some_iff.1 (beq_iff_eq.1 hlast)
    refine ⟨cs, .inl hcs, ?_⟩
    rw [chars, String.toList_append, show p.text.toList = cs ++ ['/'] from hcs, List.append_assoc]
    rfl
  · exact ⟨p.chars, .inr rfl, by simp [chars]⟩

theorem file_of_chars_nil {p : Path} (h : p.chars = []) (x : String) : p.file x = ⟨x⟩ := by
  simp [file, join, h]

theorem filter_allPieces_file {p : Path} (hp : p.chars ≠ []) {x : String}
    (hx : '/' ∉ x.toList) : (p.file x).allPieces.filter counts =
      p.allPieces.filter counts ++ [x.toList].filter counts := by
  obtain ⟨cs, hcs, hfile⟩ := exists_chars_file hp hx
  rw [allPieces, hfile, pieces_append_sep, pieces_of_not_mem hx, List.filter_append, allPieces]
  congr 1
  rcases hcs with hcs | hcs <;> rw [hcs]
  rw [pieces_append_sep]
  simp [pieces, counts]

theorem isAbsolute_file {p : Path} (hp : p.chars ≠ []) {x : String} (hx : '/' ∉ x.toList) :
    (p.file x).isAbsolute = p.isAbsolute := by
  obtain ⟨cs, hcs, hfile⟩ := exists_chars_file hp hx
  rw [isAbsolute, isAbsolute, hfile]
  rcases hcs with hcs | hcs <;> rw [hcs]
  all_goals cases cs <;> simp_all

theorem opensWithDot_file {p : Path} (hp : p.chars ≠ []) {x : String} (hx : '/' ∉ x.toList) :
    (p.file x).opensWithDot = p.opensWithDot := by
  obtain ⟨cs, hcs, hfile⟩ := exists_chars_file hp hx
  rw [Bool.eq_iff_iff, opensWithDot_iff, opensWithDot_iff, hfile]
  rcases hcs with hcs | hcs <;> rw [hcs]
  all_goals rcases cs with _ | ⟨a, _ | ⟨b, cs⟩⟩ <;> simp_all

theorem opening_file {p : Path} (hp : p.chars ≠ []) {x : String} (hx : '/' ∉ x.toList) :
    (p.file x).opening = p.opening := by
  rw [opening, opening, isAbsolute_file hp hx, opensWithDot_file hp hx]

/-- The components of what a path leads to by one more piece. -/
theorem components_file_piece {p : Path} (hp : p.chars ≠ []) {x : String} (hx : '/' ∉ x.toList) :
    (p.file x).components = p.components ++ ([x.toList].filter counts).map ofPiece := by
  rw [components_eq, components_eq, opening_file hp hx, filter_allPieces_file hp hx,
    List.map_append, List.append_assoc]

theorem opensWithDot_of_piece {x : String} (hx : '/' ∉ x.toList) (hc : counts x.toList = true) :
    opensWithDot ⟨x⟩ = false := by
  rw [Bool.eq_false_iff]
  intro h
  rcases opensWithDot_iff.1 h with h | ⟨r, h⟩
  · rw [show x.toList = ['.'] from h] at hc
    simp [counts] at hc
  · exact hx (by rw [show x.toList = '.' :: '/' :: r from h]; simp)

/-- A piece that counts stands for itself. -/
theorem components_of_piece {x : String} (hx : '/' ∉ x.toList) (hc : counts x.toList = true) :
    components ⟨x⟩ = [ofPiece x.toList] := by
  have hpieces : allPieces ⟨x⟩ = [x.toList] := pieces_of_not_mem hx
  rw [components_eq, opening, isAbsolute_of_noSeparator hx, opensWithDot_of_piece hx hc, hpieces]
  simp [hc]

theorem components_name {x : String} (hx : IsName x) : components ⟨x⟩ = [.name x] := by
  rw [components_of_piece hx.noSeparator hx.counts, hx.ofPiece]

/-- The components of a file of a directory. -/
theorem components_file (dir : Path) {x : String} (hx : IsName x) :
    (dir.file x).components = dir.components ++ [.name x] := by
  by_cases hdir : dir.chars = []
  · have hempty : dir.components = [] := by
      simp [components_eq, opening, isAbsolute, opensWithDot, allPieces, hdir, pieces, counts]
    have hfile : dir.file x = ⟨x⟩ := by simp [file, join, hdir]
    rw [hfile, hempty, components_name hx, List.nil_append]
  · rw [components_file_piece hdir hx.noSeparator]
    simp [hx.counts, hx.ofPiece]

theorem file_inj {dir : Path} {x y : String} (hx : IsName x) (hy : IsName y)
    (h : dir.file x = dir.file y) : x = y := by
  have hcomponents := components_file dir hx
  rw [h, components_file dir hy] at hcomponents
  simpa using hcomponents.symm

/-- Two files of a directory count as the same if their names are the same. -/
theorem compare_file_iff {dir : Path} {x y : String} (hx : IsName x) (hy : IsName y) :
    compare (dir.file x) (dir.file y) = .eq ↔ x = y := by
  rw [compare_eq_iff, components_file dir hx, components_file dir hy]
  simp

/-- The path of a file of a directory ends in its name, whatever that is. -/
theorem suffix_file (dir : Path) (x : String) : x.toList <:+ (dir.file x).chars := by
  unfold file join
  split
  · exact List.suffix_rfl
  · split
    · exact ⟨dir.text.toList, by simp [chars]⟩
    · exact ⟨dir.text.toList ++ ['/'], by simp [chars]⟩

theorem fileName?_file (dir : Path) {x : String} (hx : IsName x) :
    (dir.file x).fileName? = some x := by
  simp [fileName?, components_file dir hx]

/-! ## What a path lies in -/

theorem trimPieces_eq (l : List (List Char)) :
    trimPieces l = l.rdropWhile fun piece => !counts piece := rfl

theorem trimPieces_isPrefix (l : List (List Char)) : trimPieces l <+: l :=
  List.rdropWhile_prefix _ l

theorem filter_trimPieces (l : List (List Char)) :
    (trimPieces l).filter counts = l.filter counts := by
  induction l using List.reverseRecOn with
  | nil => rfl
  | append_singleton l piece ih =>
    rw [trimPieces_eq, List.rdropWhile_concat]
    split
    · next hpiece =>
      rw [← trimPieces_eq, ih]
      simp_all
    · rfl

/-- Nothing is left of pieces, or the last one that is left counts. -/
theorem trimPieces_cases (l : List (List Char)) :
    trimPieces l = [] ∨ ∃ init piece, trimPieces l = init ++ [piece] ∧ counts piece = true := by
  by_cases hne : trimPieces l = []
  · exact .inl hne
  · refine .inr ⟨_, _, (List.dropLast_append_getLast hne).symm, ?_⟩
    have hlast : ¬(!counts ((trimPieces l).getLast hne)) = true :=
      List.rdropWhile_last_not _ l hne
    simpa using hlast

theorem joinPieces_bodyPieces (p : Path) : joinPieces '/' p.bodyPieces = p.chars.drop p.headLength :=
  joinPieces_pieces ..

/-- What is left of a path when all but some pieces behind the head are taken away. -/
def keep (p : Path) (l : List (List Char)) : Path :=
  ⟨String.ofList (p.chars.take p.headLength ++ joinPieces '/' l)⟩

theorem chars_keep (p : Path) (l : List (List Char)) :
    (p.keep l).chars = p.chars.take p.headLength ++ joinPieces '/' l := by
  rw [chars, keep, String.toList_ofList]

theorem filter_pieces_joinPieces {l : List (List Char)} (h : ∀ piece ∈ l, '/' ∉ piece) :
    (pieces '/' (joinPieces '/' l)).filter counts = l.filter counts := by
  by_cases hne : l = []
  · simp [hne, joinPieces, pieces, counts]
  · rw [pieces_joinPieces hne h]

section Keep

variable {p : Path} {l : List (List Char)}

theorem components_keep_of_isAbsolute (ha : p.isAbsolute = true) :
    (p.keep l).components =
      p.opening ++ ((pieces '/' (joinPieces '/' l)).filter counts).map ofPiece := by
  obtain ⟨r, hr⟩ := isAbsolute_iff.1 ha
  have hcs : (p.keep l).chars = '/' :: joinPieces '/' l := by simp [chars_keep, headLength, ha, hr]
  have hqa : (p.keep l).isAbsolute = true := isAbsolute_iff.2 ⟨_, hcs⟩
  rw [components_eq, allPieces]
  simp [opening, ha, hqa, hcs, pieces, counts]

/-- What follows a dot at the start is nothing, or starts with a separator. -/
theorem components_keep_of_opensWithDot (hd : p.opensWithDot = true) (hl : l <+: p.bodyPieces) :
    (p.keep l).components =
      p.opening ++ ((pieces '/' (joinPieces '/' l)).filter counts).map ofPiece := by
  have hbody : joinPieces '/' l <+: p.chars.drop p.headLength :=
    joinPieces_bodyPieces p ▸ joinPieces_isPrefix hl
  have hcs : (p.keep l).chars = '.' :: joinPieces '/' l := by
    rcases opensWithDot_iff.1 hd with h | ⟨r, h⟩ <;> simp [chars_keep, headLength, hd, h]
  have hrest : joinPieces '/' l = [] ∨ ∃ r, joinPieces '/' l = '/' :: r := by
    rcases opensWithDot_iff.1 hd with h | ⟨r, h⟩
    · left
      simpa [headLength, hd, h] using hbody
    · rw [h, headLength, hd, Bool.or_true, if_pos rfl, List.drop_one, List.tail_cons] at hbody
      rcases List.prefix_cons_iff.1 hbody with hnil | ⟨r, hr, -⟩
      · exact .inl hnil
      · exact .inr ⟨r, hr⟩
  have hqd : (p.keep l).opensWithDot = true := by
    rw [opensWithDot_iff, hcs]
    rcases hrest with h | ⟨r, h⟩
    · exact .inl (by rw [h])
    · exact .inr ⟨r, by rw [h]⟩
  have notAbsolute {q : Path} (hq : q.opensWithDot = true) : ¬q.isAbsolute = true := by
    rw [isAbsolute_iff]
    rintro ⟨r, hr⟩
    simp [opensWithDot, hr] at hq
  rw [components_eq, allPieces, opening, opening, if_neg (notAbsolute hd),
    if_neg (notAbsolute hqd), hd, hqd, hcs]
  rcases hrest with h | ⟨r, h⟩ <;> simp [h, pieces, counts]

/-- A path without a head gets none, since the pieces that are kept end in one that counts. -/
theorem components_keep_of_headless (ha : ¬p.isAbsolute = true) (hd : ¬p.opensWithDot = true)
    (hl : l <+: p.bodyPieces)
    (hlast : l = [] ∨ ∃ init piece, l = init ++ [piece] ∧ counts piece = true) :
    (p.keep l).components =
      p.opening ++ ((pieces '/' (joinPieces '/' l)).filter counts).map ofPiece := by
  have hbody : joinPieces '/' l <+: p.chars.drop p.headLength :=
    joinPieces_bodyPieces p ▸ joinPieces_isPrefix hl
  have hcs : (p.keep l).chars = joinPieces '/' l := by simp [chars_keep, headLength, ha, hd]
  have hprefix : (p.keep l).chars <+: p.chars := by simpa [hcs, headLength, ha, hd] using hbody
  have hqa : ¬(p.keep l).isAbsolute = true := by
    rw [isAbsolute_iff]
    rintro ⟨r, hr⟩
    rw [hr] at hprefix
    obtain ⟨r', hr'⟩ := hprefix
    exact ha (isAbsolute_iff.2 ⟨r ++ r', hr'.symm⟩)
  have hqd : ¬(p.keep l).opensWithDot = true := by
    rw [opensWithDot_iff]
    rintro (h | ⟨r, h⟩)
    · have hfilter : l.filter counts = [] := by
        rw [← filter_pieces_joinPieces fun piece hpiece => not_mem_of_mem_pieces (hl.subset hpiece),
          ← hcs, h]
        simp [pieces, counts]
      rcases hlast with rfl | ⟨init, piece, rfl, hpiece⟩
      · rw [hcs] at h
        simp [joinPieces] at h
      · simp [hpiece] at hfilter
    · rw [h] at hprefix
      obtain ⟨r', hr'⟩ := hprefix
      exact hd (opensWithDot_iff.2 (.inr ⟨r ++ r', hr'.symm⟩))
  rw [components_eq, allPieces]
  simp [opening, ha, hqa, hd, hqd, hcs]

/-- The components of what is left of a path when pieces are taken away at its end. -/
theorem components_keep (hl : l <+: p.bodyPieces)
    (hlast : l = [] ∨ ∃ init piece, l = init ++ [piece] ∧ counts piece = true) :
    (p.keep l).components = p.opening ++ (l.filter counts).map ofPiece := by
  rw [← filter_pieces_joinPieces fun piece hpiece => not_mem_of_mem_pieces (hl.subset hpiece)]
  by_cases ha : p.isAbsolute = true
  · exact components_keep_of_isAbsolute ha
  · by_cases hd : p.opensWithDot = true
    · exact components_keep_of_opensWithDot hd hl
    · exact components_keep_of_headless ha hd hl hlast

end Keep

/-- What a path lies in has its components but for the last one. -/
theorem components_of_parent? {p q : Path} (h : p.parent? = some q) :
    q.components = p.components.dropLast := by
  rw [components_eq_opening p, ← filter_trimPieces p.bodyPieces]
  rw [parent?] at h
  split at h
  · next hbody =>
    split at h
    · next hd =>
      obtain rfl := Option.some.inj h
      have ha : ¬p.isAbsolute = true := by
        rw [isAbsolute_iff]
        rintro ⟨r, hr⟩
        simp [opensWithDot, hr] at hd
      rw [components_of_chars_nil rfl]
      simp [hbody, opening, ha, hd]
    · cases h
  · next body hne =>
    obtain rfl := Option.some.inj h
    obtain ⟨init, piece, hinit, hpiece⟩ := (trimPieces_cases p.bodyPieces).resolve_left hne
    have hprefix : trimPieces init <+: p.bodyPieces :=
      (trimPieces_isPrefix init).trans
        ((List.prefix_append init [piece]).trans (hinit ▸ trimPieces_isPrefix p.bodyPieces))
    have hkeep := components_keep hprefix (trimPieces_cases init)
    rw [keep] at hkeep
    rw [hinit, List.dropLast_concat, hkeep, filter_trimPieces, List.filter_append,
      List.map_append, ← List.append_assoc]
    simp [hpiece]

/-- The root lies in nothing, and neither does an empty path. -/
theorem parent?_eq_none_iff {p : Path} :
    p.parent? = none ↔ p.components = [] ∨ p.components = [.root] := by
  have hbody : trimPieces p.bodyPieces = [] ↔ p.bodyPieces.filter counts = [] := by
    rw [← filter_trimPieces]
    refine ⟨fun h => by rw [h, List.filter_nil], fun h => ?_⟩
    refine (trimPieces_cases _).resolve_right ?_
    rintro ⟨init, piece, heq, hpiece⟩
    simp [heq, hpiece] at h
  have hnone : p.parent? = none ↔ p.bodyPieces.filter counts = [] ∧ ¬p.opensWithDot = true := by
    rw [← hbody, parent?]
    split
    · next hnil => simp [hnil]
    · next hne => simp [show trimPieces p.bodyPieces ≠ [] from hne]
  rw [hnone, components_eq_opening, opening]
  cases hpieces : p.bodyPieces.filter counts with
  | nil =>
    by_cases ha : p.isAbsolute = true
    · obtain ⟨r, hr⟩ := isAbsolute_iff.1 ha
      simp [ha, opensWithDot, hr]
    · by_cases hd : p.opensWithDot = true <;> simp [ha, hd]
  | cons piece rest =>
    have hroot : ofPiece piece ≠ .root := by
      unfold ofPiece
      split <;> simp
    split <;> [skip; split] <;> simp [hroot]

/-- A path with a last component that is no root lies in something. -/
theorem exists_parent?_of_concat {p : Path} {cs : List Component} {name : String}
    (h : p.components = cs ++ [.name name]) : ∃ q, p.parent? = some q ∧ q.components = cs := by
  have hne : trimPieces p.bodyPieces ≠ [] := by
    intro hnil
    rw [components_eq_opening, ← filter_trimPieces, hnil, opening] at h
    split at h
    · simp [List.singleton_eq_append_iff] at h
    · split at h <;> simp [List.singleton_eq_append_iff] at h
  cases hparent : p.parent? with
  | none =>
    rw [parent?] at hparent
    split at hparent
    · next hnil => exact absurd hnil hne
    · cases hparent
  | some q => exact ⟨q, rfl, by rw [components_of_parent? hparent, h, List.dropLast_concat]⟩

/-- What a file of a directory lies in. -/
theorem exists_parent_file (dir : Path) {x : String} (hx : IsName x) :
    ∃ q, (dir.file x).parent? = some q ∧ q.components = dir.components :=
  exists_parent?_of_concat (components_file dir hx)

/-! ## Endings -/

/-- A path that ends like a name has a name with that ending. -/
theorem exists_fileName_of_suffix {p : Path} {ending : List Char} (h : ending <:+ p.chars)
    (hsep : '/' ∉ ending) (hlen : 2 < ending.length) :
    ∃ name, p.fileName? = some name ∧ ending <:+ name.toList := by
  obtain ⟨l, last, hl, hlast⟩ := exists_concat_pieces_of_suffix h hsep
  have hlength := hlast.length_le
  have hcounts : counts last = true := by
    rw [counts, Bool.not_eq_true', Bool.or_eq_false_iff]
    constructor
    · cases last <;> simp_all
    · rw [beq_eq_false_iff_ne]
      rintro rfl
      simp at hlength
      omega
  have hdots : last ≠ ['.', '.'] := by
    rintro rfl
    simp at hlength
    omega
  refine ⟨String.ofList last, ?_, by simpa using hlast⟩
  rw [fileName?, components_eq, allPieces, hl]
  simp [hcounts, ofPiece, hdots]

end Path

end ContentModels
