import ContentModels.Proofs.FileTree.Walk

/-!
# What operations on files do

What the operations do to the files of a directory, and what they leave alone.

## Main definitions

* `FileTree.Grown` — one tree is another one with more directories.

## Main statements

* `FileTree.createDirs_grown`, `FileTree.isDir_of_createDirs`, `FileTree.createDirs_of_addresses` —
  creating directories.
* `FileTree.read_entry`, `FileTree.write_entry`, `FileTree.delete_entry`,
  `FileTree.createNew_entry` — the files of a directory.
* `FileTree.moveTo_frame` — moving a file to its place.
-/

namespace ContentModels.FileTree

variable {t t' t'' : FileTree} {p dir : Path} {l : Location} {x : String}

/-! ## Creating directories -/

/-- One tree is another one with more directories, each of them at the end of one of some paths, and
with files changed at some places only. -/
structure Grown (paths : List Path) (touched : Location → Prop) (t t' : FileTree) : Prop
    extends Frame touched t t' where
  found : ∀ m, t'.get? m = some .dir → t.get? m = some .dir ∨
    ∃ p ∈ paths, t'.find p = .ok (.node m .dir)

namespace Grown

variable {paths : List Path} {touched : Location → Prop}

theorem refl (paths : List Path) (touched : Location → Prop) (t : FileTree) :
    Grown paths touched t t := ⟨.refl _ _, fun _ h => .inl h⟩

theorem trans (h : Grown paths touched t t') (h' : Grown paths touched t' t'') :
    Grown paths touched t t'' where
  toFrame := h.toFrame.trans h'.toFrame
  found m hm := by
    rcases h'.found m hm with hm | hm
    · refine (h.found m hm).imp_right ?_
      rintro ⟨p, hp, hfind⟩
      exact ⟨p, hp, h'.find hfind⟩
    · exact .inr hm

theorem mono (h : Grown paths touched t t') {paths' : List Path} {touched' : Location → Prop}
    (hpaths : paths ⊆ paths') (himp : ∀ m, touched m → touched' m) :
    Grown paths' touched' t t' where
  toFrame := h.toFrame.mono himp
  found m hm := (h.found m hm).imp_right fun ⟨p, hp, hfind⟩ => ⟨p, hpaths hp, hfind⟩

end Grown

theorem createDir_spec (h : t.createDir p = .ok t') :
    Grown [p] (fun _ => False) t t' ∧ t'.isDir p = true := by
  unfold createDir at h
  split at h
  · cases h
  · next l asDir hfind =>
    obtain rfl := Except.ok.inj h
    obtain ⟨-, hframe, hfound⟩ := find_put (.inl ⟨asDir, rfl⟩) (.inl rfl) hfind
    have hvacant := get?_of_find_vacant hfind
    refine ⟨⟨hframe.of_put_dir hvacant, fun m hm => ?_⟩, isDir_iff.2 ⟨l, hfound⟩⟩
    rw [get?_put (by simp [hvacant])] at hm
    split at hm
    · next heq => exact .inr ⟨p, List.mem_singleton_self p, heq ▸ hfound⟩
    · exact .inl hm
  · cases h

theorem ensureDir_spec (t : FileTree) (p : Path) : Grown [p] (fun _ => False) t (t.ensureDir p).2 ∧
    ((t.ensureDir p).1 = .ok () → (t.ensureDir p).2.isDir p = true) := by
  unfold ensureDir
  split
  · next t' hcreate =>
    obtain ⟨hgrown, hdir⟩ := createDir_spec hcreate
    exact ⟨hgrown, fun _ => hdir⟩
  · refine ⟨.refl _ _ t, fun h => ?_⟩
    simp only at h
    split at h
    · assumption
    · cases h

theorem createChain_spec (t : FileTree) (ps : List Path) :
    Grown ps (fun _ => False) t (t.createChain ps).2 ∧
      ∀ p above, ps = p :: above → p.chars ≠ [] → (t.createChain ps).1 = .ok () →
        (t.createChain ps).2.isDir p = true := by
  induction ps generalizing t with
  | nil => exact ⟨.refl _ _ t, fun p above h => by cases h⟩
  | cons q above ih =>
    have hq : [q] ⊆ q :: above := List.cons_subset_cons q (List.nil_subset above)
    rw [createChain]
    split
    · next hempty =>
      refine ⟨.refl _ _ t, fun p above h hp => ?_⟩
      cases h
      simp_all
    · split
      · have hgrown := (ih t).1.mono (List.subset_cons_self q above) fun _ => id
        split
        · next t' hchain =>
          rw [hchain] at hgrown
          obtain ⟨hensure, hdir⟩ := ensureDir_spec t' q
          refine ⟨hgrown.trans (hensure.mono hq fun _ => id), fun p above h _ hok => ?_⟩
          cases h
          exact hdir hok
        · next hfailed =>
          refine ⟨hgrown, fun p above h _ hok => ?_⟩
          exact (hfailed _ (Prod.ext hok rfl)).elim
      · obtain ⟨hensure, hdir⟩ := ensureDir_spec t q
        refine ⟨hensure.mono hq fun _ => id, fun p above h _ hok => ?_⟩
        cases h
        exact hdir hok

theorem createDirs_grown (t : FileTree) (p : Path) :
    Grown p.ancestors (fun _ => False) t (t.createDirs p).2 :=
  (createChain_spec t p.ancestors).1

theorem createDirs_frame (t : FileTree) (p : Path) :
    Frame (fun _ => False) t (t.createDirs p).2 :=
  (createDirs_grown t p).toFrame

theorem isDir_of_createDirs (hp : p.chars ≠ []) (h : (t.createDirs p).1 = .ok ()) :
    (t.createDirs p).2.isDir p = true := by
  refine (createChain_spec t p.ancestors).2 p (p.ancestors.tail) ?_ hp h
  rw [Path.ancestors]
  cases p.chars.length <;> rfl

/-- Nothing is created where a directory is. -/
theorem createDirs_of_addresses (h : t.Addresses p l) : t.createDirs p = (.ok (), t) := by
  obtain ⟨above, habove⟩ : ∃ above, p.ancestors = p :: above := by
    rw [Path.ancestors]
    cases p.chars.length <;> exact ⟨_, rfl⟩
  rw [createDirs, habove, createChain]
  rcases h with hfind | ⟨hempty, -⟩
  · have hne : p.chars.isEmpty = false := by simpa using chars_ne_nil_of_find hfind
    have hcreate : t.createDir p = .error .alreadyExists := by rw [createDir, hfind]
    have hdir : t.isDir p = true := isDir_iff.2 ⟨l, hfind⟩
    rw [hne, if_neg Bool.false_ne_true, hcreate, ensureDir, hcreate, hdir]
    rfl
  · rw [hempty]
    rfl

/-! ## Files of a directory -/

theorem exists_find_of_read {text : String} (h : t.read p = .ok text) : ∃ f, t.find p = .ok f := by
  rw [read, content] at h
  cases hfind : t.find p with
  | ok f => exact ⟨f, rfl⟩
  | error e =>
    rw [hfind] at h
    cases h

section Entries

variable (h : t.find p = .ok (t.entry l x))

include h

theorem createNew_entry (text : String) :
    t.createNew p text = match t.get? (l.child x) with
      | none => .ok (t.put (l.child x) (.file (.text text)))
      | some _ => .error .alreadyExists := by
  rw [createNew, h, entry]
  cases t.get? (l.child x) <;> rfl

theorem read_entry :
    t.read p = match t.get? (l.child x) with
      | none => .error .notFound
      | some .dir => .error .isDirectory
      | some (.file (.text s)) => .ok s
      | some (.file (.binary _)) => .error .notText := by
  rw [read, content, h, entry]
  rcases t.get? (l.child x) with _ | _ | _ | _ <;> rfl

theorem file?_of_read {text : String} (hread : t.read p = .ok text) :
    t.file? (l.child x) = some (.text text) := by
  rw [read_entry h] at hread
  rw [file?_eq_some_iff]
  split at hread <;> simp_all

theorem write_entry (text : String) :
    t.write p text = if t.get? (l.child x) = some .dir then .error .isDirectory
      else .ok (t.put (l.child x) (.file (.text text))) := by
  rw [write, writeContent, h, entry]
  rcases t.get? (l.child x) with _ | _ | _ <;> rfl

theorem delete_entry :
    t.delete p = match t.get? (l.child x) with
      | none => .error .notFound
      | some .dir => .error .isDirectory
      | some (.file _) => .ok (t.erase (l.child x)) := by
  rw [delete, h, entry]
  rcases t.get? (l.child x) with _ | _ | _ <;> rfl

end Entries

/-- A file that is written is all that changes, wherever its path leads. -/
theorem write_grown {text : String} (h : t.write p text = .ok t') (paths : List Path) :
    Grown paths (fun m => t'.find p = .ok (.node m (.file (.text text)))) t t' := by
  have put_grown {l : Location} {f : Finding} (hf : EndsAt l f) (hplain : f ≠ .vacant l true)
      (hfind : t.find p = .ok f) :
      Grown paths (fun m => (t.put l (.file (.text text))).find p =
        .ok (.node m (.file (.text text)))) t (t.put l (.file (.text text))) := by
    obtain ⟨hne, hframe, hfound⟩ := find_put hf (.inr hplain) hfind
    refine ⟨hframe.mono fun m hm => hm ▸ hfound, fun m hm => .inl ?_⟩
    rw [get?_put hne] at hm
    split at hm
    · cases hm
    · exact hm
  unfold write writeContent at h
  split at h
  · cases h
  · cases h
  · next l hfind =>
    obtain rfl := Except.ok.inj h
    exact put_grown (.inl ⟨false, rfl⟩) (by simp) hfind
  · cases h
  · next l old hfind =>
    obtain rfl := Except.ok.inj h
    exact put_grown (.inr ⟨old, rfl⟩) (by simp) hfind

/-- A file that is created is all that changes, wherever its path leads. -/
theorem createNew_frame {text : String} (h : t.createNew p text = .ok t') :
    Frame (fun m => t'.find p = .ok (.node m (.file (.text text)))) t t' := by
  unfold createNew at h
  split at h
  · cases h
  · cases h
  · next l hfind =>
    obtain rfl := Except.ok.inj h
    obtain ⟨-, hframe, hfound⟩ := find_put (.inl ⟨false, rfl⟩) (.inr (by simp)) hfind
    exact hframe.mono fun m hm => hm ▸ hfound
  · cases h

/-- What is written to a file is found in it. -/
theorem find_of_write {text : String} (h : t.write p text = .ok t') :
    ∃ l, t'.find p = .ok (.node l (.file (.text text))) := by
  unfold write writeContent at h
  split at h
  · cases h
  · cases h
  · next l hfind =>
    obtain rfl := Except.ok.inj h
    exact ⟨l, (find_put (.inl ⟨false, rfl⟩) (.inr (by simp)) hfind).2.2⟩
  · cases h
  · next l old hfind =>
    obtain rfl := Except.ok.inj h
    exact ⟨l, (find_put (.inr ⟨old, rfl⟩) (.inr (by simp)) hfind).2.2⟩

/-- Whether a file can be written does not depend on the text. -/
theorem exists_write_of_write {text : String} (h : t.write p text = .ok t') (text' : String) :
    ∃ t'', t.write p text' = .ok t'' := by
  unfold write writeContent at h ⊢
  split at h <;> simp_all

/-- A file that is deleted is all that changes, wherever its path leads. -/
theorem delete_frame (h : t.delete p = .ok t') :
    Frame (fun m => ∃ content, t.find p = .ok (.node m (.file content))) t t' := by
  unfold delete at h
  split at h
  · cases h
  · cases h
  · cases h
  · next l old hfind =>
    obtain rfl := Except.ok.inj h
    have hne := (find_put (n := .dir) (.inr ⟨old, rfl⟩) (.inl rfl) hfind).1
    exact (Frame.erase hne).mono fun m hm => ⟨old, hm ▸ hfind⟩

/-- A file that is moved to its place is all that changes, wherever its path leads. -/
theorem moveTo_frame {file : Option Content} (h : t.moveTo p file = .ok t') :
    Frame (fun m => ∃ content, t'.find p = .ok (.node m (.file content))) t t' := by
  have put_frame {l : Location} {f : Finding} (hf : EndsAt l f) (hplain : f ≠ .vacant l true)
      (hfind : t.find p = .ok f) (content : Content) :
      Frame (fun m => ∃ c, (t.put l (.file content)).find p = .ok (.node m (.file c))) t
        (t.put l (.file content)) := by
    obtain ⟨-, hframe, hfound⟩ := find_put hf (.inr hplain) hfind
    exact hframe.mono fun m hm => ⟨content, hm ▸ hfound⟩
  unfold moveTo at h
  split at h
  · cases h
  split at h
  · cases h
  split at h
  · cases h
  · cases h
  · cases h
  · next l content hfind =>
    obtain rfl := Except.ok.inj h
    exact put_frame (.inl ⟨false, rfl⟩) (by simp) hfind content
  · cases h
  · next l old content hfind =>
    obtain rfl := Except.ok.inj h
    exact put_frame (.inr ⟨old, rfl⟩) (by simp) hfind content

end ContentModels.FileTree
