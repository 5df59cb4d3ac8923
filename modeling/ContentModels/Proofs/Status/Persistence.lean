import ContentModels.Proofs.FileTree.Access
import ContentModels.Proofs.Json.Layout
import ContentModels.Status.Stored

/-!
# A status in a file is the status in memory

A status that is written to a file is read back from it as it was. Once the file could be written,
it can be written again, so each change of the status is made to the file, too: whatever is
reported, by whichever handle of the file, the file holds the status that remembers it. Nothing else
is changed but for the directories that the file takes, even if the status cannot be written.

## Main definitions

* `Notice` — what is reported to a status.
* `Status.recorded` — reports to the status in a file, one after the other.
* `Status.IsKept` — a file holds a status, and can be written again.
* `FileTree.Saves` — two trees differ in one file, and in directories that it lies in.

## Main statements

* `Status.ofJson_of_toJson` — the document of a status is read back.
* `Status.IsKept.update` — a change of the status is made to its file.
* `Status.load_recorded` — the status in a file after any reports.
* `Status.saves_update` — what changing a recorded status does to a tree.
-/

namespace ContentModels

open FileTree Json

/-- Something that is reported to a status. -/
inductive Notice where
  /-- A run failed. -/
  | failure (message : String)
  /-- A run succeeded, perhaps with diagnostics. -/
  | success (diagnostics : List Diagnostic)
  /-- The schema changed. -/
  | change
  deriving DecidableEq, Repr

namespace Status

variable {s : Status} {t t' t₁ : FileTree} {file : Path}

/-- A status takes note of something. -/
def note (s : Status) : Notice → Status
  | .failure message => s.fail message
  | .success diagnostics => s.succeed diagnostics
  | .change => s.mark

/-- The tree after reports to the status in a file. A handle of the file is no more than its path,
so that it makes no difference which handle a report goes through. -/
def recorded (t : FileTree) (file : Path) (notices : List Notice) : FileTree :=
  notices.foldl (fun t n => update t file fun s => s.note n) t

/-! ## Documents -/

theorem takes_document (s : Status) : Takes Status.record.read s.document s :=
  Record.takes_read
    (.cons rfl (takes_optional s.lastError).map (.cons rfl (takes_bool s.outOfDate).map (.nil _)))
    (by simp) (by simp [Status.record])

/-- A status is read back from the document that it is written to. -/
theorem ofJson_of_toJson (s : Status) : ofJson s.toJson = .ok s := s.takes_document.run

/-! ## Saving -/

/-- The tree with the directories that a file takes, and whether it has them all. -/
def prepared (t : FileTree) (file : Path) : Except IoFault Unit × FileTree :=
  match file.parent? with
  | some dir => if dir.chars.isEmpty then (.ok (), t) else t.createDirs dir
  | none => (.ok (), t)

/-- A status is saved if the directories are there, and then the file is written. -/
theorem save_eq_ok_iff : s.save t file = (.ok (), t') ↔
    ∃ t₁, prepared t file = (.ok (), t₁) ∧ t₁.write file s.toJson = .ok t' := by
  rcases hprepared : prepared t file with ⟨e | ⟨⟩, t₁⟩
  all_goals
    unfold prepared at hprepared
    unfold save
  · cases hparent : file.parent? <;> simp_all
  · cases hwrite : t₁.write file s.toJson <;> cases hparent : file.parent? <;> simp_all

/-- The directories stay when the file is written, and no others are created for it. -/
theorem prepared_of_write {text : String} (h : prepared t file = (.ok (), t₁))
    (hwrite : t₁.write file text = .ok t') : prepared t' file = (.ok (), t') := by
  unfold prepared at h ⊢
  split
  · next dir hdir =>
    rw [hdir] at h
    by_cases hempty : dir.chars.isEmpty = true
    · rw [if_pos hempty]
    · dsimp only at h
      rw [if_neg hempty] at h ⊢
      have hfound : (t.createDirs dir).2.isDir dir = true :=
        isDir_of_createDirs (by simpa using hempty) (by rw [h])
      rw [h] at hfound
      obtain ⟨l, hl⟩ := isDir_iff.1 hfound
      exact createDirs_of_addresses (.of_find ((write_grown hwrite []).find hl))
  · rfl

/-- A file holds a status, and the directories that it takes are there. -/
structure IsKept (s : Status) (t : FileTree) (file : Path) : Prop where
  prepared : prepared t file = (.ok (), t)
  found : ∃ l, t.find file = .ok (.node l (.file (.text s.toJson)))

theorem isKept_of_save (h : s.save t file = (.ok (), t')) : s.IsKept t' file := by
  obtain ⟨t₁, hprepared, hwrite⟩ := save_eq_ok_iff.1 h
  exact ⟨prepared_of_write hprepared hwrite, find_of_write hwrite⟩

/-- Whether a status can be saved does not depend on it. -/
theorem exists_save_of_save (h : s.save t file = (.ok (), t')) (s' : Status) :
    ∃ t'', s'.save t file = (.ok (), t'') := by
  obtain ⟨t₁, hprepared, hwrite⟩ := save_eq_ok_iff.1 h
  obtain ⟨t'', hwrite'⟩ := exists_write_of_write hwrite s'.toJson
  exact ⟨t'', save_eq_ok_iff.2 ⟨t₁, hprepared, hwrite'⟩⟩

namespace IsKept

theorem load (h : s.IsKept t file) : load t file = .ok s := by
  obtain ⟨l, hfind⟩ := h.found
  have hread : t.read file = .ok s.toJson := by rw [FileTree.read, content, hfind]
  rw [Status.load, hread]
  simp [ofJson_of_toJson, Except.mapError]

/-- A file that holds a status can be written again. -/
theorem exists_save (h : s.IsKept t file) (s' : Status) :
    ∃ t', s'.save t file = (.ok (), t') := by
  obtain ⟨l, hfind⟩ := h.found
  have hwrite : t.write file s'.toJson = .ok (t.put l (.file (.text s'.toJson))) := by
    rw [write, writeContent, hfind]
  exact ⟨_, save_eq_ok_iff.2 ⟨t, h.prepared, hwrite⟩⟩

end IsKept

/-! ## Changing -/

/-- What is saved is a change of the status that is loaded. -/
theorem isKept_update {s₀ : Status} (hload : (load t file).toOption.getD {} = s₀)
    (hsave : ∀ s : Status, ∃ t', s.save t file = (.ok (), t')) (f : Status → Status) :
    (f s₀).IsKept (update t file f) file := by
  obtain ⟨t', hsaved⟩ := hsave (f s₀)
  have hupdate : update t file f = t' := by simp [Status.update, hload, hsaved]
  exact hupdate ▸ isKept_of_save hsaved

/-- A change of the status is made to its file. -/
theorem IsKept.update (h : s.IsKept t file) (f : Status → Status) :
    (f s).IsKept (update t file f) file :=
  isKept_update (by rw [h.load]; rfl) h.exists_save f

/-- However many reports go to a status, its file holds the status that took note of all. -/
theorem IsKept.recorded (h : s.IsKept t file) (notices : List Notice) :
    (notices.foldl note s).IsKept (recorded t file notices) file := by
  induction notices generalizing s t with
  | nil => exact h
  | cons n notices ih => exact ih (h.update fun s => s.note n)

/-- Reports to a status in a file, which starts out missing or unreadable and can be written, leave
in the file what they leave in memory, from the first of them on; a file that is missing stands for
what is in memory even before. Whatever status is saved is loaded again. -/
theorem load_recorded
    (hstart : t.read file = .error .notFound ∨ ∃ e, load t file = .error e)
    (hsave : ∃ s, (save s t file).1 = .ok ()) :
    (∀ notices, notices ≠ [] ∨ t.read file = .error .notFound →
      load (recorded t file notices) file = .ok (notices.foldl note {})) ∧
    ∀ (s : Status) (before after : FileTree), s.save before file = (.ok (), after) →
      load after file = .ok s := by
  refine ⟨fun notices hnotices => ?_, fun s before after hsaved => (isKept_of_save hsaved).load⟩
  have hload : (load t file).toOption.getD {} = {} := by
    rcases hstart with hmissing | ⟨e, he⟩
    · simp [load, hmissing, Except.toOption]
    · simp [he, Except.toOption]
  have hsaves : ∀ s : Status, ∃ t', s.save t file = (.ok (), t') := by
    obtain ⟨s, hs⟩ := hsave
    exact exists_save_of_save (Prod.ext hs rfl)
  cases notices with
  | nil =>
    have hmissing := hnotices.resolve_left (by simp)
    simp [recorded, load, hmissing]
  | cons n notices =>
    exact ((isKept_update hload hsaves fun s => s.note n).recorded notices).load

/-- A status file that is no document. -/
def garbledFile : FileTree :=
  ({} : FileTree).put ⟨["status.json"]⟩ (.file (.text "\x7b not json"))

theorem load_recorded_garbledFile :
    garbledFile.read ⟨"status.json"⟩ = .ok "\x7b not json" ∧
      load (recorded garbledFile ⟨"status.json"⟩ [.change, .failure "boom"]) ⟨"status.json"⟩ =
        .ok { lastError := some "boom", outOfDate := true } := by
  have hstart : garbledFile.read ⟨"status.json"⟩ = .error .notFound ∨
      ∃ e, load garbledFile ⟨"status.json"⟩ = .error e := .inr ⟨_, by rfl⟩
  have hsave : ∃ s : Status, (s.save garbledFile ⟨"status.json"⟩).1 = .ok () := ⟨{}, by decide⟩
  exact ⟨by decide, (load_recorded hstart hsave).1 _ (.inl (by simp))⟩

end Status

/-! ## What recording a status changes -/

namespace FileTree

variable {t t' : FileTree} {file : Path} {m : Location} {content : Content}

/-- The paths of the directories that a file lies in. -/
def dirsOf (file : Path) : List Path := (file.parent?.map Path.ancestors).getD []

/-- Two trees differ in nothing but a file, and directories that are created for it. -/
structure Saves (file : Path) (t t' : FileTree) : Prop where
  here : t'.here = t.here
  changes : ∀ m, t'.get? m ≠ t.get? m →
    (t.get? m ≠ some .dir ∧ ∃ content, t'.find file = .ok (.node m (.file content)) ∧
      t'.get? m = some (.file content)) ∨
    (t.get? m = none ∧ t'.get? m = some .dir ∧
      ∃ p ∈ dirsOf file, t'.find p = .ok (.node m .dir))

theorem get?_of_find_file (h : t.find file = .ok (.node m (.file content))) :
    t.get? m = some (.file content) := by
  rw [find_eq (chars_ne_nil_of_find h)] at h
  rcases get?_of_walk (fun piece hpiece => Text.not_mem_of_mem_pieces hpiece) h with
    ⟨l, hf⟩ | ⟨l, x, -, ⟨_, hf, hget⟩ | ⟨_, hf, -⟩⟩
  · cases hf
  · cases hf
    exact hget
  · cases hf

theorem Saves.of_grown (h : Grown (dirsOf file)
    (fun m => ∃ content, t'.find file = .ok (.node m (.file content))) t t') : Saves file t t' where
  here := h.here
  changes m hne := by
    by_cases htouched : ∃ content, t'.find file = .ok (.node m (.file content))
    · obtain ⟨content, hfind⟩ := htouched
      have hget := get?_of_find_file hfind
      refine .inl ⟨fun hdir => ?_, content, hfind, hget⟩
      rw [h.dirs m hdir] at hget
      cases hget
    · obtain ⟨hvacant, hdir⟩ := (h.get?_of_untouched htouched).resolve_left hne
      refine .inr ⟨hvacant, hdir, (h.found m hdir).resolve_left ?_⟩
      simp [hvacant]

end FileTree

namespace Status

/-- Saving creates directories, and then writes the file if it can. -/
theorem exists_created (s : Status) (t : FileTree) (file : Path) :
    ∃ t₁, Grown (dirsOf file) (fun _ => False) t t₁ ∧
      ((s.save t file).2 = t₁ ∨ t₁.write file s.toJson = .ok (s.save t file).2) := by
  unfold save
  cases hparent : file.parent? with
  | none =>
    refine ⟨t, .refl _ _ t, ?_⟩
    dsimp only
    cases t.write file s.toJson <;> simp
  | some dir =>
    by_cases hempty : dir.chars.isEmpty = true
    · refine ⟨t, .refl _ _ t, ?_⟩
      simp only [if_pos hempty]
      cases t.write file s.toJson <;> simp
    · have hgrown := createDirs_grown t dir
      simp only [if_neg hempty, dirsOf, hparent]
      generalize t.createDirs dir = created at hgrown ⊢
      obtain ⟨_ | _, t₁⟩ := created
      · exact ⟨t₁, hgrown, .inl rfl⟩
      · refine ⟨t₁, hgrown, ?_⟩
        dsimp only
        cases t₁.write file s.toJson <;> simp

/-- Changing a recorded status changes its file only, and creates directories for that. -/
theorem saves_update (t : FileTree) (file : Path) (f : Status → Status) :
    Saves file t (update t file f) := by
  obtain ⟨t₁, hgrown, hsaved⟩ := exists_created (f ((load t file).toOption.getD {})) t file
  rw [update]
  refine .of_grown ?_
  rcases hsaved with hsaved | hwrite
  · rw [hsaved]
    exact hgrown.mono (List.Subset.refl _) fun _ h => h.elim
  · refine (hgrown.mono (List.Subset.refl _) fun _ h => h.elim).trans ?_
    exact (write_grown hwrite _).mono (List.Subset.refl _) fun _ h => ⟨_, h⟩

end Status

end ContentModels
