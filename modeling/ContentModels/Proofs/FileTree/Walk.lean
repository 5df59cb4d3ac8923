import ContentModels.Proofs.FileTree.Frame

/-!
# Where walks lead

A walk that ends at a directory goes from directory to directory, and can be cut in two anywhere. So
the way to a file of a directory is the way to the directory and one more step, whatever the
spelling of the directory is.

In a tree of files everything lies in a directory. So a directory that is there is reached by every
way down to it, and nothing lies below a place where nothing is.

## Main definitions

* `FileTree.toward` — the directory that one piece of a path leads to.
* `FileTree.entry` — what is found under a name in a directory.
* `FileTree.Addresses` — the files of a path lie in a directory.
* `FileTree.IsRooted` — whether everything lies in a directory.

## Main statements

* `FileTree.walk_append` — one walk after another.
* `FileTree.walk_put` — what is put at the end of a walk is found there.
* `FileTree.find_file` — what is found at a file of a directory.
* `FileTree.find_of_components` — directories are found by their components.
* `FileTree.Frame.find` — changes of files leave the ways to directories alone.
* `FileTree.IsRooted.find_of_frame` — a directory that was there already can be found already,
  unless the way to it leads up.
-/

namespace ContentModels.FileTree

open Text

variable {t t' : FileTree} {dir l m : Location} {piece : List Char} {ps qs : List (List Char)}

/-! ## Single steps -/

/-- The directory that one piece of a path leads to. -/
def toward (t : FileTree) (dir : Location) (piece : List Char) : Option Location :=
  if !Path.counts piece then some dir
  else if piece == ['.', '.'] then some dir.parent
  else if t.get? (dir.child (String.ofList piece)) = some .dir then
    some (dir.child (String.ofList piece))
  else none

/-- What is found under a name in a directory. -/
def entry (t : FileTree) (dir : Location) (x : String) : Finding :=
  match t.get? (dir.child x) with
  | some n => .node (dir.child x) n
  | none => .vacant (dir.child x) false

theorem entry_eq_node_iff {x : String} {n : Node} :
    t.entry dir x = .node m n ↔ m = dir.child x ∧ t.get? (dir.child x) = some n := by
  rw [entry]
  cases t.get? (dir.child x) <;> simp [eq_comm]

theorem walk_cons_of_toward (h : t.toward dir piece = some m) (rest : List (List Char)) :
    t.walk dir (piece :: rest) = t.walk m rest := by
  rw [walk]
  unfold toward at h
  split at h
  · next hc => rw [if_pos hc, Option.some.inj h]
  next hc =>
  rw [if_neg hc]
  split at h
  · next hup => rw [if_pos hup, Option.some.inj h]
  next hup =>
  rw [if_neg hup]
  split at h
  · next hget =>
    rw [← Option.some.inj h]
    simp only [hget]
  · cases h

/-- A piece that leads to no directory is a name, and ends the walk there. -/
theorem walk_cons_of_toward_eq_none (h : t.toward dir piece = none) (rest : List (List Char)) :
    (piece ≠ ['.', '.'] ∧ Path.counts piece = true) ∧
      t.walk dir (piece :: rest) = match t.get? (dir.child (String.ofList piece)) with
        | some n => if rest = [] then .ok (.node (dir.child (String.ofList piece)) n)
          else .error .notDirectory
        | none => if rest.all List.isEmpty then
            .ok (.vacant (dir.child (String.ofList piece)) !rest.isEmpty)
          else .error .notFound := by
  rw [walk]
  unfold toward at h
  split at h
  · cases h
  next hc =>
  rw [if_neg hc]
  split at h
  · cases h
  next hup =>
  rw [if_neg hup]
  split at h
  · cases h
  next hget =>
  refine ⟨⟨by simpa using hup, by simpa using hc⟩, ?_⟩
  cases hn : t.get? (dir.child (String.ofList piece)) with
  | none => simp only [hn]
  | some n =>
    cases n with
    | dir => exact absurd hn hget
    | file content => simp [hn]

/-- A walk to a directory has a first step. -/
theorem exists_toward (h : t.walk dir (piece :: qs) = .ok (.node l .dir)) :
    ∃ m, t.toward dir piece = some m ∧ t.walk m qs = .ok (.node l .dir) := by
  cases htoward : t.toward dir piece with
  | some m => exact ⟨m, rfl, by rw [← walk_cons_of_toward htoward, h]⟩
  | none =>
    obtain ⟨⟨hup, hc⟩, hwalk⟩ := walk_cons_of_toward_eq_none htoward qs
    rw [h] at hwalk
    have hget : t.get? (dir.child (String.ofList piece)) ≠ some .dir := by
      intro hget
      simp [toward, hup, hc, hget] at htoward
    split at hwalk
    · split at hwalk
      · simp_all
      · cases hwalk
    · split at hwalk <;> cases hwalk

/-! ## Walks -/

theorem walk_append (h : t.walk dir ps = .ok (.node l .dir)) (qs : List (List Char)) :
    t.walk dir (ps ++ qs) = t.walk l qs := by
  induction ps generalizing dir with
  | nil =>
    simp only [walk, Except.ok.injEq, Finding.node.injEq, and_true] at h
    rw [h, List.nil_append]
  | cons piece rest ih =>
    obtain ⟨m, htoward, hrest⟩ := exists_toward h
    rw [List.cons_append, walk_cons_of_toward htoward, ih hrest]

/-- Pieces that do not count make no difference on the way to a directory. -/
theorem walk_filter : t.walk dir ps = .ok (.node l .dir) ↔
    t.walk dir (ps.filter Path.counts) = .ok (.node l .dir) := by
  induction ps generalizing dir with
  | nil => rfl
  | cons piece rest ih =>
    by_cases hc : Path.counts piece = true
    · rw [List.filter_cons_of_pos hc]
      constructor
      · intro h
        obtain ⟨m, htoward, hrest⟩ := exists_toward h
        rw [walk_cons_of_toward htoward, ih.1 hrest]
      · intro h
        obtain ⟨m, htoward, hrest⟩ := exists_toward h
        rw [walk_cons_of_toward htoward, ih.2 hrest]
    · rw [List.filter_cons_of_neg hc, ← ih, walk, if_pos (by simpa using hc)]

theorem walk_name {x : String} (hx : Path.IsName x) :
    t.walk dir [x.toList] = .ok (t.entry dir x) := by
  unfold entry
  cases htoward : t.toward dir x.toList with
  | some m =>
    rw [walk_cons_of_toward htoward, walk]
    obtain ⟨hget, rfl⟩ : t.get? (dir.child x) = some .dir ∧ dir.child x = m := by
      simpa [toward, hx.counts, hx.noDots] using htoward
    rw [hget]
  | none =>
    rw [(walk_cons_of_toward_eq_none htoward []).2, String.ofList_toList]
    cases t.get? (dir.child x) <;> simp

/-- Whatever is found behind a name is found in a directory, and under that name. -/
theorem exists_entry_of_walk_concat {x : String} (hx : Path.IsName x) {f : Finding}
    (h : t.walk dir (ps ++ [x.toList]) = .ok f) :
    ∃ m, t.walk dir ps = .ok (.node m .dir) ∧ f = t.entry m x := by
  induction ps generalizing dir with
  | nil =>
    rw [List.nil_append, walk_name hx] at h
    exact ⟨dir, rfl, (Except.ok.inj h).symm⟩
  | cons piece rest ih =>
    rw [List.cons_append] at h
    cases htoward : t.toward dir piece with
    | some m =>
      rw [walk_cons_of_toward htoward] at h ⊢
      exact ih h
    | none =>
      have hne : x.toList ≠ [] := by
        have := hx.counts
        simp only [Path.counts, Bool.not_eq_true', Bool.or_eq_false_iff] at this
        simpa using this.1
      rw [(walk_cons_of_toward_eq_none htoward _).2] at h
      split at h
      · simp at h
      · simp [hne] at h

/-- What is found at the end of a walk is there, under a name. -/
theorem get?_of_walk {f : Finding} (hps : ∀ piece ∈ ps, '/' ∉ piece) (h : t.walk dir ps = .ok f) :
    (∃ l, f = .node l .dir) ∨ ∃ (m : Location) (x : String), Path.IsName x ∧
      ((∃ content, f = .node (m.child x) (.file content) ∧
          t.get? (m.child x) = some (.file content)) ∨
        ∃ asDir, f = .vacant (m.child x) asDir ∧ t.get? (m.child x) = none) := by
  induction ps generalizing dir with
  | nil => exact .inl ⟨dir, (Except.ok.inj h).symm⟩
  | cons piece rest ih =>
    cases htoward : t.toward dir piece with
    | some m =>
      rw [walk_cons_of_toward htoward] at h
      exact ih (fun p hp => hps p (List.mem_cons_of_mem _ hp)) h
    | none =>
      obtain ⟨⟨hup, hc⟩, hwalk⟩ := walk_cons_of_toward_eq_none htoward rest
      have hname : Path.IsName (String.ofList piece) := by
        refine ⟨?_, ?_, ?_⟩ <;> rw [String.toList_ofList]
        · exact hps piece List.mem_cons_self
        · exact hc
        · exact hup
      have hget : t.get? (dir.child (String.ofList piece)) ≠ some .dir := by
        intro hget
        simp [toward, hup, hc, hget] at htoward
      rw [hwalk] at h
      refine .inr ⟨dir, _, hname, ?_⟩
      cases hn : t.get? (dir.child (String.ofList piece)) with
      | none =>
        simp only [hn] at h
        split at h
        · exact .inr ⟨_, (Except.ok.inj h).symm, rfl⟩
        · cases h
      | some n =>
        simp only [hn] at h
        split at h
        · cases n with
          | dir => exact absurd hn hget
          | file content => exact .inl ⟨content, (Except.ok.inj h).symm, rfl⟩
        · cases h

theorem Frame.toward {touched : Location → Prop} (h : Frame touched t t')
    (htoward : t.toward dir piece = some m) : t'.toward dir piece = some m := by
  unfold FileTree.toward at htoward ⊢
  split at htoward
  · next hc => rw [if_pos hc, htoward]
  next hc =>
  rw [if_neg hc]
  split at htoward
  · next hup => rw [if_pos hup, htoward]
  next hup =>
  rw [if_neg hup]
  split at htoward
  · next hget => rw [if_pos (h.dirs _ hget), htoward]
  · cases htoward

/-- Changes of files leave the ways to directories alone. -/
theorem Frame.walk {touched : Location → Prop} (h : Frame touched t t')
    (hwalk : t.walk dir ps = .ok (.node l .dir)) : t'.walk dir ps = .ok (.node l .dir) := by
  induction ps generalizing dir with
  | nil => exact hwalk
  | cons piece rest ih =>
    obtain ⟨m, htoward, hrest⟩ := exists_toward hwalk
    rw [walk_cons_of_toward (h.toward htoward), ih hrest]

theorem walk_of_all_isEmpty (h : ps.all List.isEmpty = true) :
    t.walk dir ps = .ok (.node dir .dir) := by
  induction ps with
  | nil => rfl
  | cons piece rest ih =>
    rw [List.all_cons, Bool.and_eq_true] at h
    rw [walk_cons_of_toward (m := dir) (by simp [toward, Path.counts, h.1]), ih h.2]

theorem get?_of_walk_vacant {asDir : Bool} (hps : ∀ piece ∈ ps, '/' ∉ piece)
    (h : t.walk dir ps = .ok (.vacant l asDir)) : t.get? l = none := by
  rcases get?_of_walk hps h with ⟨l', hf⟩ | ⟨m, x, -, ⟨old, hf, -⟩ | ⟨asDir', hf, hget⟩⟩
  · cases hf
  · cases hf
  · cases hf
    exact hget

/-- A walk ends at a place where no directory is: at a file, or at nothing. -/
def EndsAt (l : Location) (f : Finding) : Prop :=
  (∃ asDir, f = .vacant l asDir) ∨ ∃ old, f = .node l (.file old)

/-- Where a walk ends that finds no directory, a place can be put that is named like a file. -/
theorem frame_put_of_walk {f : Finding} (hf : EndsAt l f) (hps : ∀ piece ∈ ps, '/' ∉ piece)
    (h : t.walk dir ps = .ok f) : t.get? l ≠ some .dir ∧ ∀ n, Frame (· = l) t (t.put l n) := by
  obtain ⟨m, x, hx, rfl, hget⟩ : ∃ (m : Location) (x : String), Path.IsName x ∧ l = m.child x ∧
      t.get? (m.child x) ≠ some .dir := by
    rcases get?_of_walk hps h with ⟨l', rfl⟩ | ⟨m, x, hx, ⟨old, rfl, hget⟩ | ⟨asDir, rfl, hget⟩⟩
    · rcases hf with ⟨_, hf⟩ | ⟨_, hf⟩ <;> cases hf
    · rcases hf with ⟨_, hf⟩ | ⟨_, hf⟩ <;> cases hf
      exact ⟨m, x, hx, rfl, by simp [hget]⟩
    · rcases hf with ⟨_, hf⟩ | ⟨_, hf⟩ <;> cases hf
      exact ⟨m, x, hx, rfl, by simp [hget]⟩
  exact ⟨hget, fun n => .put hget (fun d y heq => (Location.child_inj.1 heq).2 ▸ hx) n⟩

/-- What is put at the end of a walk is found by the walk. A file is not found by a walk that asks
for a directory. -/
theorem walk_put {f : Finding} {n : Node} (hf : EndsAt l f) (hn : n = .dir ∨ f ≠ .vacant l true)
    (hps : ∀ piece ∈ ps, '/' ∉ piece) (h : t.walk dir ps = .ok f) :
    (t.put l n).walk dir ps = .ok (.node l n) := by
  obtain ⟨hne, hframe⟩ := frame_put_of_walk hf hps h
  induction ps generalizing dir with
  | nil => rcases hf with ⟨_, rfl⟩ | ⟨_, rfl⟩ <;> cases h
  | cons piece rest ih =>
    cases htoward : t.toward dir piece with
    | some m =>
      rw [walk_cons_of_toward htoward] at h
      rw [walk_cons_of_toward ((hframe n).toward htoward)]
      exact ih (fun p hp => hps p (List.mem_cons_of_mem _ hp)) h
    | none =>
      obtain ⟨⟨hup, hc⟩, hwalk⟩ := walk_cons_of_toward_eq_none htoward rest
      -- The walk ends here, and what follows asks for a directory at most.
      obtain ⟨rfl, hempty, hrest⟩ : dir.child (String.ofList piece) = l ∧
          rest.all List.isEmpty = true ∧ (n = .dir ∨ rest = []) := by
        rw [h] at hwalk
        split at hwalk
        · split at hwalk
          · next hrest =>
            rcases hf with ⟨_, rfl⟩ | ⟨_, rfl⟩ <;> cases hwalk
            exact ⟨rfl, by simp [hrest], .inr hrest⟩
          · cases hwalk
        · split at hwalk
          · next hempty =>
            obtain rfl := Except.ok.inj hwalk
            rcases hf with ⟨_, hf⟩ | ⟨_, hf⟩ <;> cases hf
            exact ⟨rfl, hempty, hn.imp_right fun hne => by simpa using hne⟩
          · cases hwalk
      cases n with
      | dir =>
        have htoward' : (t.put (dir.child (String.ofList piece)) .dir).toward dir piece =
            some (dir.child (String.ofList piece)) := by
          simp [toward, hup, hc, get?_put hne]
        rw [walk_cons_of_toward htoward', walk_of_all_isEmpty hempty]
      | file content =>
        obtain rfl : rest = [] := hrest.resolve_left (by simp)
        have htoward' : (t.put (dir.child (String.ofList piece)) (.file content)).toward dir piece =
            none := by
          simp [toward, hup, hc, get?_put hne]
        rw [(walk_cons_of_toward_eq_none htoward' _).2, get?_put hne]
        simp

/-! ## Paths -/

/-- Where the walk of a path starts. -/
def start (t : FileTree) (p : Path) : Location := if p.isAbsolute then .root else t.here

theorem walk_bodyPieces (p : Path) : t.walk dir p.bodyPieces = t.walk dir p.allPieces := by
  have skip (rest : List (List Char)) : t.walk dir ([] :: rest) = t.walk dir rest := by
    rw [FileTree.walk]
    rfl
  have skipDot (rest : List (List Char)) : t.walk dir (['.'] :: rest) = t.walk dir rest := by
    rw [FileTree.walk]
    rfl
  rw [Path.bodyPieces, Path.allPieces, Path.headLength]
  by_cases ha : p.isAbsolute = true
  · obtain ⟨r, hr⟩ := Path.isAbsolute_iff.1 ha
    simp [ha, hr, pieces, skip]
  · by_cases hd : p.opensWithDot = true
    · rcases Path.opensWithDot_iff.1 hd with h | ⟨r, h⟩
      · simp [ha, hd, h, pieces, skip, skipDot]
      · simp [ha, hd, h, pieces, skip, skipDot]
    · simp [ha, hd]

theorem find_eq {p : Path} (h : p.chars ≠ []) :
    t.find p = t.walk (t.start p) p.allPieces := by
  rw [find, if_neg (by simpa using h), walk_bodyPieces, start]

theorem chars_ne_nil_of_find {p : Path} {f : Finding} (h : t.find p = .ok f) : p.chars ≠ [] := by
  intro hp
  simp [find, hp] at h

theorem isDir_iff {p : Path} : t.isDir p = true ↔ ∃ l, t.find p = .ok (.node l .dir) := by
  rw [isDir, node?, beq_iff_eq]
  split <;> simp_all

theorem get?_of_find_vacant {p : Path} {asDir : Bool} (h : t.find p = .ok (.vacant l asDir)) :
    t.get? l = none := by
  rw [find_eq (chars_ne_nil_of_find h)] at h
  exact get?_of_walk_vacant (fun piece hpiece => not_mem_of_mem_pieces hpiece) h

/-- What is put at the end of a path is found there. -/
theorem find_put {p : Path} {f : Finding} {n : Node} (hf : EndsAt l f)
    (hn : n = .dir ∨ f ≠ .vacant l true) (h : t.find p = .ok f) :
    t.get? l ≠ some .dir ∧ Frame (· = l) t (t.put l n) ∧
      (t.put l n).find p = .ok (.node l n) := by
  have hp := chars_ne_nil_of_find h
  have hps : ∀ piece ∈ p.allPieces, '/' ∉ piece := fun piece hpiece => not_mem_of_mem_pieces hpiece
  rw [find_eq hp] at h
  obtain ⟨hne, hframe⟩ := frame_put_of_walk hf hps h
  refine ⟨hne, hframe n, ?_⟩
  rw [find_eq hp]
  exact walk_put hf hn hps h

/-- A separator at its end makes no difference to where a directory is. -/
theorem find_iff_walk {p : Path} {cs : List Char} (hp : p.chars ≠ [])
    (hcs : p.chars = cs ++ ['/'] ∨ p.chars = cs) :
    t.find p = .ok (.node l .dir) ↔ t.walk (t.start p) (pieces '/' cs) = .ok (.node l .dir) := by
  rw [find_eq hp, Path.allPieces]
  rcases hcs with hcs | hcs
  · rw [hcs, pieces_append_sep]
    refine walk_filter.trans (Iff.trans ?_ walk_filter.symm)
    simp [pieces, Path.counts]
  · rw [hcs]

/-- The way to a directory and one more piece. -/
theorem find_piece {p : Path} (h : t.find p = .ok (.node l .dir)) {x : String}
    (hx : '/' ∉ x.toList) : t.find (p.file x) = t.walk l [x.toList] := by
  have hp := chars_ne_nil_of_find h
  obtain ⟨cs, hcs, hfile⟩ := Path.exists_chars_file hp hx
  have hne : (p.file x).chars ≠ [] := by simp [hfile]
  have hstart : t.start (p.file x) = t.start p := by
    rw [start, start, Path.isAbsolute_file hp hx]
  rw [find_eq hne, hstart, Path.allPieces, hfile, pieces_append_sep, pieces_of_not_mem hx,
    walk_append ((find_iff_walk hp hcs).1 h)]

/-- What is found at a file of a directory. -/
theorem find_file {p : Path} (h : t.find p = .ok (.node l .dir)) {x : String}
    (hx : Path.IsName x) : t.find (p.file x) = .ok (t.entry l x) := by
  rw [find_piece h hx.noSeparator, walk_name hx]

/-- What is found at a name. -/
theorem find_name {x : String} (hx : Path.IsName x) : t.find ⟨x⟩ = .ok (t.entry t.here x) := by
  have hne : (⟨x⟩ : Path).chars ≠ [] := by
    intro hnil
    have hc := hx.counts
    rw [show x.toList = [] from hnil] at hc
    cases hc
  have hpieces : (⟨x⟩ : Path).allPieces = [x.toList] := pieces_of_not_mem hx.noSeparator
  rw [find_eq hne, hpieces, start, Path.isAbsolute_of_noSeparator hx.noSeparator,
    if_neg Bool.false_ne_true, walk_name hx]

/-- The files of a path lie in a directory: the one that it leads to. An empty path leads nowhere,
but its files are those of the directory where relative paths start. -/
def Addresses (t : FileTree) (p : Path) (l : Location) : Prop :=
  t.find p = .ok (.node l .dir) ∨ p.chars = [] ∧ t.here = l

theorem Addresses.of_find {p : Path} (h : t.find p = .ok (.node l .dir)) : t.Addresses p l := .inl h

theorem Addresses.find_file {p : Path} (h : t.Addresses p l) {x : String} (hx : Path.IsName x) :
    t.find (p.file x) = .ok (t.entry l x) := by
  rcases h with h | ⟨hp, rfl⟩
  · exact FileTree.find_file h hx
  · rw [Path.file_of_chars_nil hp, find_name hx]

/-- Whatever is found at a file is found in a directory, and under the name of the file. -/
theorem exists_entry_of_find_file {p : Path} {x : String} (hx : Path.IsName x) {f : Finding}
    (h : t.find (p.file x) = .ok f) : ∃ m, t.Addresses p m ∧ f = t.entry m x := by
  by_cases hp : p.chars = []
  · rw [Path.file_of_chars_nil hp, find_name hx] at h
    exact ⟨t.here, .inr ⟨hp, rfl⟩, (Except.ok.inj h).symm⟩
  · have hne := chars_ne_nil_of_find h
    obtain ⟨cs, hcs, hfile⟩ := Path.exists_chars_file hp hx.noSeparator
    have hstart : t.start (p.file x) = t.start p := by
      rw [start, start, Path.isAbsolute_file hp hx.noSeparator]
    rw [find_eq hne, hstart, Path.allPieces, hfile, pieces_append_sep,
      pieces_of_not_mem hx.noSeparator] at h
    obtain ⟨m, hwalk, hf⟩ := exists_entry_of_walk_concat hx h
    exact ⟨m, .of_find ((find_iff_walk hp hcs).2 hwalk), hf⟩

/-- Directories are found by their components. -/
theorem find_of_components {p q : Path} (h : t.find p = .ok (.node l .dir)) (hq : q.chars ≠ [])
    (hsame : q.components = p.components) : t.find q = .ok (.node l .dir) := by
  have hp := chars_ne_nil_of_find h
  obtain ⟨habs, hcounts⟩ := Path.eq_of_components_eq hsame
  rw [find_eq hp, walk_filter] at h
  rw [find_eq hq, walk_filter, hcounts, start, habs]
  exact h

/-- Changes of files leave the ways to directories alone. -/
theorem Frame.find {touched : Location → Prop} (h : Frame touched t t') {p : Path}
    (hfind : t.find p = .ok (.node l .dir)) : t'.find p = .ok (.node l .dir) := by
  have hp := chars_ne_nil_of_find hfind
  rw [find_eq hp] at hfind ⊢
  have hstart : t'.start p = t.start p := by rw [start, start, h.here]
  rw [hstart]
  exact h.walk hfind

theorem Addresses.of_frame {touched : Location → Prop} {p : Path} (h : t.Addresses p l)
    (hframe : Frame touched t t') : t'.Addresses p l :=
  h.imp hframe.find fun ⟨hp, hhere⟩ => ⟨hp, hframe.here.trans hhere⟩

/-! ## Trees without gaps -/

/-- Whether everything lies in a directory. -/
def IsRooted (t : FileTree) : Prop :=
  ∀ (dir : Location) (x : String), dir.child x ∈ t.nodes.keys → t.get? dir = some .dir

namespace IsRooted

theorem get?_of_child (h : t.IsRooted) {x : String} {n : Node}
    (hget : t.get? (dir.child x) = some n) : t.get? dir = some .dir :=
  h dir x (mem_names.1 (mem_names_of_get? hget))

/-- Nothing lies below a place that is no directory. -/
theorem file?_child (h : t.IsRooted) (hget : t.get? dir ≠ some .dir) (x : String) :
    t.file? (dir.child x) = none := by
  cases hfile : t.file? (dir.child x) with
  | none => rfl
  | some content => exact absurd (h.get?_of_child (file?_eq_some_iff.1 hfile)) hget

/-- A way down to a directory leads through directories all the time. -/
theorem walk_of_walk (h : t.IsRooted) (hup : ['.', '.'] ∉ ps)
    (hwalk : t'.walk dir ps = .ok (.node l .dir)) (hget : t.get? l = some .dir) :
    t.get? dir = some .dir ∧ t.walk dir ps = .ok (.node l .dir) := by
  induction ps generalizing dir with
  | nil =>
    obtain rfl : dir = l := by simpa [walk] using hwalk
    exact ⟨hget, rfl⟩
  | cons piece rest ih =>
    obtain ⟨hpiece, hrest⟩ : piece ≠ ['.', '.'] ∧ ['.', '.'] ∉ rest := by
      simpa [eq_comm] using hup
    obtain ⟨m, htoward, hwalk⟩ := exists_toward hwalk
    obtain ⟨hm, hfound⟩ := ih hrest hwalk
    suffices hstep : t.get? dir = some .dir ∧ t.toward dir piece = some m by
      exact ⟨hstep.1, by rw [walk_cons_of_toward hstep.2, hfound]⟩
    unfold toward at htoward ⊢
    split at htoward
    · next hc =>
      obtain rfl := Option.some.inj htoward
      exact ⟨hm, if_pos hc⟩
    next hc =>
    have hname : ¬(piece == ['.', '.']) = true := by simpa using hpiece
    rw [if_neg hname] at htoward
    rw [if_neg hc, if_neg hname]
    split at htoward
    · obtain rfl := Option.some.inj htoward
      exact ⟨h.get?_of_child hm, if_pos hm⟩
    · cases htoward

/-- A directory that was there already can be found already, unless the way to it leads up. -/
theorem find_of_frame (h : t.IsRooted) {touched : Location → Prop} (hframe : Frame touched t t')
    {p : Path} (hup : Component.up ∉ p.components) (hfind : t'.find p = .ok (.node l .dir))
    (hget : t.get? l = some .dir) : t.find p = .ok (.node l .dir) := by
  have hp := chars_ne_nil_of_find hfind
  rw [find_eq hp] at hfind ⊢
  have hstart : t'.start p = t.start p := by rw [start, start, hframe.here]
  rw [hstart] at hfind
  refine (h.walk_of_walk (fun hmem => hup ?_) hfind hget).2
  rw [Path.components_eq]
  refine List.mem_append_right _ (List.mem_map.2 ⟨_, List.mem_filter.2 ⟨hmem, ?_⟩, ?_⟩) <;> rfl

end IsRooted

end ContentModels.FileTree
